/-
# BinarySolver.Proofs.TreeSpelling -- no two types have one spelling

`TypeTree.emitted` is the tree of the emitted type that a type expression is spelled as:
`spell_descriptor` says so wherever tuples stand behind pointers only.  Scalars, names
and templates have words of their own, so the emitted tree tells the type expression
(`emitted_injective`), and by `EmittedType.text_injective` the spelling tells it too.
-/
import BinarySolver.Proofs.EmittedType
import BinarySolver.Proofs.PlainSpelling
import BinarySolver.Proofs.Reading

namespace BinarySolver

set_option autoImplicit false

/-! ## Words -/

namespace Category

theorem unmarked_spelling (c : Category) : ∀ d ∈ c.spelling.toList, d ∉ emittedMarks :=
  Text.forall_mem_of_all (by cases c <;> decide)

def emittedWord (c : Category) : EmittedWord := ⟨c.spelling.toList, c.unmarked_spelling⟩

theorem spelling_injective {c d : Category} (same : c.spelling = d.spelling) : c = d := by
  have found : ∀ c : Category, all.find? (fun d => d.spelling == c.spelling) = some c := by
    intro c
    cases c <;> decide
  have left := found c
  rw [same, found d] at left
  exact (Option.some.inj left).symm

/-- No category is spelled like a name. -/
theorem spelling_ne (c : Category) (text : List Char) : c.spelling.toList ≠ 'J' :: text := by
  intro same
  have front : ∀ c : Category, c.spelling.toList.head? ≠ some 'J' := by
    intro c
    cases c <;> decide
  exact front c (by rw [same]; rfl)

end Category

namespace EmittedWord

def array : EmittedWord :=
  ⟨Templates.standard.array.toList, Text.forall_mem_of_all (by decide)⟩

def slice : EmittedWord :=
  ⟨Templates.standard.slice.toList, Text.forall_mem_of_all (by decide)⟩

def map : EmittedWord :=
  ⟨Templates.standard.map.toList, Text.forall_mem_of_all (by decide)⟩

def tuple : EmittedWord :=
  ⟨Templates.standard.tuple.toList, Text.forall_mem_of_all (by decide)⟩

def func : EmittedWord :=
  ⟨Templates.standard.func.toList, Text.forall_mem_of_all (by decide)⟩

/-- The parameters and the result of a function of nothing that returns nothing. -/
def nothing : EmittedWord :=
  ⟨"void(void)".toList, Text.forall_mem_of_all (by decide)⟩

end EmittedWord

namespace TypeName

variable {n m : TypeName}

/-- A name as it stands in the emitted program. -/
def emittedWord (n : TypeName) : EmittedWord where
  text := "JNID(".toList ++ n.text.toList ++ [')']
  unmarked := by
    intro c member
    rw [List.mem_append, List.mem_append, List.mem_singleton] at member
    have marks : ∀ c ∈ "JNID(".toList, c ∉ emittedMarks := Text.forall_mem_of_all (by decide)
    rcases member with (opening | letter) | rfl
    · exact marks c opening
    · exact Text.not_mem_of_all (by decide) (n.isLetterOrDigit_of_mem c letter)
    · decide

theorem text_emittedWord (n : TypeName) :
    n.emittedWord.text = "JNID(".toList ++ n.text.toList ++ [')'] := rfl

theorem emittedWord_injective (same : n.emittedWord = m.emittedWord) : n = m := by
  have texts := congrArg EmittedWord.text same
  simp only [text_emittedWord, List.append_assoc] at texts
  exact ext (String.toList_injective (List.append_cancel_right (List.append_cancel_left texts)))

def emitted (n : TypeName) : EmittedType :=
  match Category.ofName? n.text with
  | some .fn => .template .func (.word .nothing) []
  | some c => .word c.emittedWord
  | none => .word n.emittedWord

theorem emitted_of_scalar {c : Category} (named : c.name = n.text) (scalar : c.IsScalar) :
    n.emitted = .word c.emittedWord := by
  unfold emitted
  rw [Category.ofName?_eq_some_iff.2 named]
  split
  · rename_i same
    cases same
    exact absurd scalar (by decide)
  · rename_i same
    cases same
    rfl
  · rename_i same
    cases same

theorem emitted_of_function (known : n.text = "fn") :
    n.emitted = .template .func (.word .nothing) [] := by
  rw [emitted, known]
  rfl

theorem emitted_of_struct (other : ∀ c : Category, c.name ≠ n.text) :
    n.emitted = .word n.emittedWord := by
  rw [emitted, Category.ofName?_eq_none_iff.2 other]

theorem emitted_ne_pointer (n : TypeName) (t : EmittedType) : n.emitted ≠ .pointer t := by
  unfold emitted
  split <;> exact nofun

/-- A name is no template but that of functions. -/
theorem emitted_ne_template {word : EmittedWord} (other : word ≠ .func) (n : TypeName)
    (first : EmittedType) (rest : List EmittedType) :
    n.emitted ≠ .template word first rest := by
  unfold emitted
  split
  · intro same
    cases same
    exact other rfl
  · exact nofun
  · exact nofun

theorem emitted_injective (same : n.emitted = m.emitted) : n = m := by
  have left := n.gives_descriptor
  have right := m.gives_descriptor
  generalize n.descriptor = d at left
  generalize m.descriptor = e at right
  have scalar_ne_struct : ∀ (c : Category) (k : TypeName),
      EmittedType.word c.emittedWord ≠ .word k.emittedWord := by
    intro c k words
    have texts := congrArg EmittedWord.text (EmittedType.word.inj words)
    exact c.spelling_ne _ texts
  cases left with
  | scalar c named scalar =>
      rw [emitted_of_scalar named scalar] at same
      cases right with
      | scalar d other otherScalar =>
          rw [emitted_of_scalar other otherScalar] at same
          have texts := congrArg EmittedWord.text (EmittedType.word.inj same)
          obtain rfl := Category.spelling_injective (String.toList_injective texts)
          exact ext (named.symm.trans other)
      | function other => rw [emitted_of_function other] at same; cases same
      | struct other =>
          rw [emitted_of_struct other] at same
          exact absurd same (scalar_ne_struct c m)
  | function known =>
      rw [emitted_of_function known] at same
      cases right with
      | scalar d other otherScalar => rw [emitted_of_scalar other otherScalar] at same; cases same
      | function other => exact ext (known.trans other.symm)
      | struct other => rw [emitted_of_struct other] at same; cases same
  | struct none =>
      rw [emitted_of_struct none] at same
      cases right with
      | scalar d other otherScalar =>
          rw [emitted_of_scalar other otherScalar] at same
          exact absurd same.symm (scalar_ne_struct d n)
      | function other => rw [emitted_of_function other] at same; cases same
      | struct other =>
          rw [emitted_of_struct other] at same
          exact emittedWord_injective (EmittedType.word.inj same)

end TypeName

namespace TypeTree

/-- The emitted type that a type expression is spelled as. -/
def emitted : TypeTree → EmittedType
  | name n => n.emitted
  | pointer t => .pointer t.emitted
  | array t => .template .array t.emitted []
  | slice t => .template .slice t.emitted []
  | map key value => .template .map key.emitted [value.emitted]
  | tuple first rest => .template .tuple first.emitted (rest.map emitted)

theorem eq_name_of_emitted {n : TypeName} {u : TypeTree} (same : u.emitted = n.emitted) :
    u = .name n := by
  cases u with
  | name m =>
      rw [emitted] at same
      rw [TypeName.emitted_injective same]
  | pointer u =>
      rw [emitted] at same
      exact absurd same.symm (n.emitted_ne_pointer _)
  | _ =>
      rw [emitted] at same
      exact absurd same.symm (TypeName.emitted_ne_template (by decide) n _ _)

theorem emitted_injective {t u : TypeTree} (same : t.emitted = u.emitted) : t = u := by
  have named : ∀ t n, t.emitted = (name n).emitted → t = name n := by
    intro t n same
    rw [emitted] at same
    exact eq_name_of_emitted same
  induction t generalizing u with
  | name n => exact (named u n same.symm).symm
  | pointer t ih =>
      cases u with
      | name m => exact named _ m same
      | pointer u =>
          simp only [emitted, EmittedType.pointer.injEq] at same
          rw [ih same]
      | _ => simp [emitted] at same
  | array t ih =>
      cases u with
      | name m => exact named _ m same
      | array u =>
          simp only [emitted, EmittedType.template.injEq, true_and, and_true] at same
          rw [ih same]
      | pointer u => simp only [emitted, reduceCtorEq] at same
      | _ =>
          simp only [emitted, EmittedType.template.injEq] at same
          exact absurd same.1 (by decide)
  | slice t ih =>
      cases u with
      | name m => exact named _ m same
      | slice u =>
          simp only [emitted, EmittedType.template.injEq, true_and, and_true] at same
          rw [ih same]
      | pointer u => simp only [emitted, reduceCtorEq] at same
      | _ =>
          simp only [emitted, EmittedType.template.injEq] at same
          exact absurd same.1 (by decide)
  | map key value keyIh valueIh =>
      cases u with
      | name m => exact named _ m same
      | map otherKey otherValue =>
          simp only [emitted, EmittedType.template.injEq, true_and, List.cons.injEq,
            and_true] at same
          rw [keyIh same.1, valueIh same.2]
      | pointer u => simp only [emitted, reduceCtorEq] at same
      | _ =>
          simp only [emitted, EmittedType.template.injEq] at same
          exact absurd same.1 (by decide)
  | tuple first rest firstIh restIh =>
      cases u with
      | name m => exact named _ m same
      | tuple otherFirst otherRest =>
          simp only [emitted, EmittedType.template.injEq, true_and] at same
          rw [firstIh same.1, map_inj_of_mem (fun t member u => restIh t member) same.2]
      | pointer u => simp only [emitted, reduceCtorEq] at same
      | _ =>
          simp only [emitted, EmittedType.template.injEq] at same
          exact absurd same.1 (by decide)

end TypeTree

/-! ## Spelling -/

theorem isAscii_of_isLetterOrDigit {c : Char} (letter : IsLetterOrDigit c) :
    Unicode.isAscii c = true := by
  have bounds := toNat_bounds letter
  simp only [Unicode.isAscii, decide_eq_true_eq]
  omega

theorem isStart_of_isLetter {c : Char} (letter : IsLetter c) : Identifier.isStart c = true := by
  have start := isNameStart_iff.2 letter
  rw [TypeExpr.isNameStart, Bool.or_comm] at start
  have ascii := isAscii_of_isLetterOrDigit (.inl letter)
  rw [Identifier.isStart, Unicode.isAlphabetic_of_isAscii ascii]
  exact start

theorem isPart_of_isLetterOrDigit {c : Char} (letter : IsLetterOrDigit c) :
    Identifier.isPart c = true := by
  rw [Identifier.isPart, Bool.or_eq_true]
  rcases letter with letter | digit
  · exact .inl (isStart_of_isLetter letter)
  · right
    rw [Unicode.isNumeric_of_isAscii (isAscii_of_isLetterOrDigit (.inr digit))]
    simp only [Char.isDigit, ge_iff_le, Bool.and_eq_true, decide_eq_true_eq]
    exact digit

theorem TypeName.isName (n : TypeName) : Identifier.IsName n.text := by
  obtain ⟨c, cs, front, letter⟩ := n.exists_letter
  refine ⟨c, cs, front, isStart_of_isLetter letter, ?_⟩
  intro d member
  apply isPart_of_isLetterOrDigit
  apply n.isLetterOrDigit_of_mem
  rw [front]
  exact .tail c member

namespace Speller

/-- The speller of the usual configuration; it knows no files. -/
def standard : Speller := ofConfig .standard

theorem spell_struct (n : TypeName) :
    (standard.spell (.named .struct n.text)).toList = n.emittedWord.text := by
  have plain : (Descriptor.named .struct n.text).isPlain = true :=
    Descriptor.isPlain_of_isName rfl n.isName String.append_empty.symm
  have form : (Descriptor.named .struct n.text).payloadForm = .named := rfl
  have name : standard.nameOf (.named .struct n.text) = "JNID(" ++ n.text ++ ")" := by
    simp only [nameOf, Descriptor.named, Identifier.split_of_isName n.isName]
    rfl
  rw [standard.spell_of_isPlain rfl plain, form, body, name, TypeName.text_emittedWord]
  simp

/-- A template is the emitted type of its arguments. -/
theorem toList_applied {template first : String} {rest : List String} {w : EmittedWord}
    {t : EmittedType} {ts : List EmittedType} (name : template.toList = w.text)
    (head : first.toList = t.text) (tail : rest.map String.toList = ts.map EmittedType.text) :
    (applied template (first :: rest)).toList = (EmittedType.template w t ts).text := by
  have arguments : (rest.flatMap fun r => ",".toList ++ r.toList) =
      ts.flatMap fun t => ',' :: t.text := by
    have texts := congrArg (List.flatMap fun r => ',' :: r) tail
    rw [List.flatMap_map, List.flatMap_map] at texts
    exact texts
  simp only [applied, String.toList_append, Text.toList_joined_cons, name, head, arguments,
    EmittedType.text]
  simp

theorem spell_function : (standard.spell (.function [] .void)).toList =
    (EmittedType.template .func (.word .nothing) []).text := by
  rw [spell_func, body, Descriptor.void, spell_scalar _ rfl]
  refine toList_applied rfl ?_ rfl
  rw [EmittedType.text]
  decide

theorem spell_name (n : TypeName) : (standard.spell n.descriptor).toList = n.emitted.text := by
  have gives := n.gives_descriptor
  generalize n.descriptor = d at gives
  cases gives with
  | scalar c named scalar =>
      have unnamed : Descriptor.innerForm.ofCategory c = .scalar := by
        clear named
        cases c <;> first | rfl | exact absurd scalar (by decide)
      rw [TypeName.emitted_of_scalar named scalar, EmittedType.text, Category.emittedWord,
        spell_scalar _ unnamed]
  | function known =>
      rw [TypeName.emitted_of_function known, spell_function]
  | struct other =>
      rw [TypeName.emitted_of_struct other, EmittedType.text, spell_struct]

theorem resolve_descriptor (t : TypeTree) : t.descriptor.resolve = t.descriptor :=
  Descriptor.resolve_of_aliasOf t.aliasOf_descriptor

theorem elements?_resolve_descriptor {t : TypeTree} (simple : t.elements? = none) :
    t.descriptor.resolve.elements? = none := by
  rw [resolve_descriptor, TypeTree.elements?_descriptor, simple]
  rfl

/-- A type expression is spelled as its emitted type if its tuples are bare. -/
theorem spell_descriptor {t : TypeTree} (bare : t.TuplesBare) :
    (standard.spell t.descriptor).toList = t.emitted.text := by
  induction bare with
  | name n =>
      rw [TypeTree.descriptor, TypeTree.emitted]
      exact spell_name n
  | pointer target ih =>
      rw [TypeTree.descriptor, TypeTree.emitted, spell_pointerTo, String.toList_append, ih,
        EmittedType.text]
      rfl
  | array simple element ih =>
      rw [TypeTree.descriptor, TypeTree.emitted,
        spell_arrayOf _ (elements?_resolve_descriptor simple)]
      exact toList_applied rfl ih rfl
  | slice simple element ih =>
      rw [TypeTree.descriptor, TypeTree.emitted,
        spell_sliceOf _ (elements?_resolve_descriptor simple)]
      exact toList_applied rfl ih rfl
  | map left right leftIh rightIh =>
      rw [TypeTree.descriptor, TypeTree.emitted, spell_map]
      · refine toList_applied rfl leftIh ?_
        rw [List.map_singleton, List.map_singleton, rightIh]
      · obtain ⟨c, cs, front, separates, closes⟩ := TypeTree.exists_signature_front _
        rw [TypeTree.signature_descriptor, front]
        exact ⟨separates, closes⟩
  | @tuple first rest head tail headIh tailIh =>
      rw [TypeTree.descriptor, TypeTree.emitted, spell_tuple, List.map_cons]
      refine toList_applied rfl headIh ?_
      rw [List.map_map, List.map_map, List.map_map]
      exact List.map_congr_left tailIh

/-- **No two types have one spelling** where tuples stand behind pointers only. -/
theorem spell_injective {left right : List Char} {t u : TypeTree} {d e : Descriptor}
    (leftDerives : TypeExpr.Derives left t) (rightDerives : TypeExpr.Derives right u)
    (leftBare : t.TuplesBare) (rightBare : u.TuplesBare) (leftReads : TypeExpr.read left = .ok d)
    (rightReads : TypeExpr.read right = .ok e)
    (same : standard.spell d = standard.spell e) : d = e := by
  rw [leftDerives.read_eq] at leftReads
  rw [rightDerives.read_eq] at rightReads
  cases leftReads
  cases rightReads
  have texts := congrArg String.toList same
  rw [spell_descriptor leftBare, spell_descriptor rightBare] at texts
  rw [TypeTree.emitted_injective (EmittedType.text_injective texts)]

/-- A pointer to a tuple, written with blanks and without. -/
theorem spell_injective_pointer_to_pair :
    ∃ d e, TypeExpr.read "*(i32,T)".toList = .ok d ∧ TypeExpr.read "* (i32, T )".toList = .ok e ∧
      standard.spell d = "std::tuple<i32_jnt,JNID(T)>*" ∧ standard.spell e = standard.spell d ∧
        d = e := by
  let i32 : TypeName := ⟨"i32", by decide, by decide⟩
  let T : TypeName := ⟨"T", by decide, by decide⟩
  let t : TypeTree := .pointer (.tuple (.name i32) [.name T])
  have plain : TypeExpr.Derives "*(i32,T)".toList t := by
    have text : "*(i32,T)".toList =
        '*' :: ('(' :: ("i32".toList ++ ',' :: "T".toList) ++ [')']) := rfl
    rw [text]
    have elements := TypeExpr.Elements.more (TypeExpr.Body.name i32).derives
      (.last (TypeExpr.Body.name T).derives)
    exact (TypeExpr.Body.pointer (TypeExpr.Body.tuple elements).derives).derives
  have padded : TypeExpr.Derives "* (i32, T )".toList t := by
    have text : "* (i32, T )".toList = '*' :: ([' '] ++ ('(' :: ("i32".toList ++
        ',' :: ([' '] ++ "T".toList ++ [' '])) ++ [')']) ++ []) := rfl
    have blank := Text.isBlank_space
    have nothing := Text.isBlank_nil
    rw [text]
    have elements := TypeExpr.Elements.more (TypeExpr.Body.name i32).derives
      (.last (.padded blank blank (.name T)))
    exact (TypeExpr.Body.pointer (.padded blank nothing (.tuple elements))).derives
  have bare : t.TuplesBare := by
    refine .pointer (.tuple (.name i32) ?_)
    intro u member
    rw [List.mem_singleton.1 member]
    exact .name T
  have spelled : standard.spell t.descriptor = "std::tuple<i32_jnt,JNID(T)>*" := by
    have known : i32.emitted = .word Category.i32.emittedWord :=
      TypeName.emitted_of_scalar rfl (by decide)
    have unknown : T.emitted = .word T.emittedWord :=
      TypeName.emitted_of_struct (Category.ofName?_eq_none_iff.1 rfl)
    apply String.toList_injective
    rw [spell_descriptor bare]
    simp only [t, TypeTree.emitted, known, unknown, EmittedType.text, List.map, List.flatMap]
    decide
  exact ⟨t.descriptor, t.descriptor, plain.read_eq, padded.read_eq, spelled, rfl,
    spell_injective plain padded bare bare plain.read_eq padded.read_eq rfl⟩

end Speller

end BinarySolver
