/-
# BinarySolver.Proofs.PlainSpelling -- the spelling of what begins with a name

A plain type has neither a marker nor a bracket in front, so its form is told by its
payload, and its spelling begins with nothing else (`spell_of_isPlain`).  What begins with
an identifier is plain: names, enums, functions, and names with arguments.  Cut around its
first identifier, such a signature gives this identifier whole (`split_append_of_isName`).
-/
import BinarySolver.Proofs.Nesting

namespace BinarySolver

set_option autoImplicit false

/-! ## Cutting a name -/

namespace Identifier

variable {name : String}

instance (text : String) : Decidable (IsName text) :=
  match front : text.toList with
  | [] => isFalse fun identifier => by
      obtain ⟨c, cs, other, -⟩ := identifier
      rw [front] at other
      cases other
  | c :: cs => decidable_of_iff ((isStart c && cs.all isPart) = true) (by
      rw [Bool.and_eq_true, List.all_eq_true]
      constructor
      · exact fun identifier => ⟨c, cs, front, identifier⟩
      · rintro ⟨d, ds, other, identifier⟩
        rw [front] at other
        cases other
        exact identifier)

theorem isPart_of_isStart {c : Char} (start : isStart c = true) : isPart c = true := by
  rw [isPart, start, Bool.true_or]

/-- A name in front of what no name goes on with is cut off whole. -/
theorem split_append_of_isName (identifier : IsName name) {rest : String}
    (ends : ∀ c ∈ rest.toList.head?, isPart c = false) :
    split (name ++ rest) = ⟨"", name, rest⟩ := by
  obtain ⟨c, cs, front, start, parts⟩ := identifier
  have text : (name ++ rest).toList = c :: (cs ++ rest.toList) := by
    rw [String.toList_append, front, List.cons_append]
  have whole : ∀ d ∈ name.toList, isPart d = true := by
    intro d member
    rw [front] at member
    rcases List.mem_cons.1 member with rfl | member
    · exact isPart_of_isStart start
    · exact parts d member
  have markers : (name ++ rest).toList.takeWhile (fun d => !isStart d) = [] := by
    rw [text]
    exact List.takeWhile_cons_of_neg (by simp [start])
  have tail : (name ++ rest).toList.dropWhile (fun d => !isStart d) =
      name.toList ++ rest.toList := by
    rw [text, List.dropWhile_cons_of_neg (by simp [start]), front, List.cons_append]
  have noPart : rest.toList.takeWhile isPart = [] ∧ rest.toList.dropWhile isPart = rest.toList := by
    cases behind : rest.toList with
    | nil => exact ⟨rfl, rfl⟩
    | cons e es =>
        have other : isPart e = false := ends e (by rw [behind]; rfl)
        simp [other]
  simp only [split, markers, tail, List.takeWhile_append_of_pos whole,
    List.dropWhile_append_of_pos whole, noPart, List.append_nil, String.ofList_nil,
    String.ofList_toList]

theorem split_of_isName (identifier : IsName name) : split name = ⟨"", name, ""⟩ := by
  have nothing : ∀ c ∈ "".toList.head?, isPart c = false := fun c member => by cases member
  have cut := split_append_of_isName identifier nothing
  rwa [String.append_empty] at cut

end Identifier

namespace Descriptor

/-! ## Forms of plain types -/

/-- The form of a type that has no brackets in front. -/
def payloadForm (d : Descriptor) : Form :=
  match d.payload, d.category with
  | .generics arguments, _ => .generic arguments
  | .func params ret, .fn => .function params ret
  | _, category => innerForm.ofCategory category

theorem multi_of_isPlain {d : Descriptor} (plain : d.isPlain = true) : d.multi = false := by
  simp only [isPlain, Bool.and_eq_true, Bool.not_eq_true'] at plain
  exact plain.1.1

/-- What is neither behind a marker nor in a bracket has no front to be told. -/
theorem front_of_isPlain {d : Descriptor} (plain : d.isPlain = true) :
    d.signature.toList = [] ∨ ∃ c cs, d.signature.toList = c :: cs ∧ c ≠ '*' ∧ c ≠ '[' := by
  have star := startsWith_star_of_isPlain plain
  have bracket := startsWith_bracket_of_isPlain plain
  unfold startsWith at star bracket
  cases front : d.signature.toList with
  | nil => exact .inl rfl
  | cons c cs =>
      rw [front] at star bracket
      exact .inr ⟨c, cs, rfl, by simpa using star, by simpa using bracket⟩

theorem pointers_of_isPlain {d : Descriptor} (plain : d.isPlain = true) : d.pointers = 0 := by
  rcases front_of_isPlain plain with empty | ⟨c, cs, front, star, -⟩
  · rw [pointers, empty]
    rfl
  · exact pointers_eq_zero front star

theorem stripPointers_of_isPlain {d : Descriptor} (plain : d.isPlain = true) :
    d.stripPointers = d := by
  rcases front_of_isPlain plain with empty | ⟨c, cs, front, star, -⟩
  · rw [stripPointers, empty, List.dropWhile_nil, ← empty, String.ofList_toList]
    exact with_signature_marked d ""
  · exact stripPointers_eq_self front star

theorem elements?_of_multi {d : Descriptor} (single : d.multi = false) : d.elements? = none := by
  unfold elements?
  split
  · rw [single]
    rfl
  · rfl

theorem elements?_of_isPlain {d : Descriptor} (plain : d.isPlain = true) : d.elements? = none :=
  elements?_of_multi (multi_of_isPlain plain)

/-- The payload of a plain type tells its form. -/
theorem form_of_isPlain {d : Descriptor} (plain : d.isPlain = true) :
    d.form = d.payloadForm := by
  have bare := startsWith_bracket_of_isPlain plain
  have noMap : d.isMap = false := by rw [isMap, bare, Bool.and_false]; rfl
  rw [form_of_elements?_eq_none (elements?_of_isPlain plain), stripPointers_of_isPlain plain,
    innerForm]
  split
  · rename_i front
    simp [startsWith, front] at bare
  · rename_i front
    simp [startsWith, front] at bare
  · rw [payloadForm, noMap]
    cases d.payload with
    | func => cases d.category <;> rfl
    | _ => rfl

/-- What begins with a name is plain. -/
theorem isPlain_of_isName {d : Descriptor} {name rest : String} (single : d.multi = false)
    (identifier : Identifier.IsName name) (front : d.signature = name ++ rest) :
    d.isPlain = true := by
  obtain ⟨c, cs, first, start, -⟩ := identifier
  have star : c ≠ '*' := by
    rintro rfl
    revert start
    decide
  have bracket : c ≠ '[' := by
    rintro rfl
    revert start
    decide
  simp [isPlain, startsWith, single, front, first, star, bracket]

theorem isName_fn : Identifier.IsName "fn" := by decide

theorem signature_function (params : List (Param Descriptor)) (ret : Descriptor) :
    ∃ rest, (function params ret).signature = "fn" ++ rest := by
  refine ⟨"(" ++ (Text.joined ", " (params.map paramSignature) ++ ")" ++
    if ret.isVoid then "" else " " ++ ret.signature), ?_⟩
  have opening : "fn(" = "fn" ++ "(" := rfl
  simp only [function, functionSignature, named, opening, String.append_assoc]

/-- Arguments are put behind a signature, in brackets, or nothing is. -/
theorem signature_withGenerics (ds : List Descriptor) :
    ∃ rest, (∀ d : Descriptor, (d.withGenerics ds).signature = d.signature ++ rest) ∧
      ∀ c ∈ rest.toList.head?, Identifier.isPart c = false := by
  unfold withGenerics
  split
  · exact ⟨"", fun d => String.append_empty.symm, fun c member => by cases member⟩
  · refine ⟨"[" ++ (signatureList ds ++ "]"), fun d => ?_, ?_⟩
    · simp only [String.append_assoc]
    · intro c member
      rw [String.toList_append] at member
      cases member
      decide

theorem isPlain_function (params : List (Param Descriptor)) (ret : Descriptor) :
    (function params ret).isPlain = true := by
  obtain ⟨rest, front⟩ := signature_function params ret
  exact isPlain_of_isName rfl isName_fn front

theorem isPlain_withGenerics (c : Category) {name : String} (identifier : Identifier.IsName name)
    (ds : List Descriptor) : ((named c name).withGenerics ds).isPlain = true := by
  obtain ⟨rest, front, -⟩ := signature_withGenerics ds
  exact isPlain_of_isName rfl identifier (front (named c name))

theorem isPlain_enumeration {name : String} (identifier : Identifier.IsName name)
    (d : Descriptor) : (enumeration name d).isPlain = true :=
  isPlain_of_isName rfl identifier String.append_empty.symm

end Descriptor

namespace Speller

variable (s : Speller)

/-! ## Spellings of names and functions -/

/-- A plain type is spelled by its payload. -/
theorem spell_of_isPlain {d : Descriptor} (resolved : d.aliasOf = none)
    (plain : d.isPlain = true) : s.spell d = s.body d d.payloadForm := by
  rw [spell_eq, Descriptor.resolve_of_aliasOf resolved, Descriptor.form_of_isPlain plain,
    Descriptor.pointers_of_isPlain plain]
  exact String.append_empty

/-- The name of a type that begins with a name is this name. -/
theorem nameOf_of_isName {d : Descriptor} {name rest : String}
    (identifier : Identifier.IsName name) (front : d.signature = name ++ rest)
    (ends : ∀ c ∈ rest.toList.head?, Identifier.isPart c = false) :
    s.nameOf d = s.escaper name (s.file? d.span) := by
  rw [nameOf, front, Identifier.split_append_of_isName identifier ends]

/-- What an enum stands for is not spelled. -/
theorem spell_enumeration {name : String} (identifier : Identifier.IsName name) (d : Descriptor) :
    s.spell (.enumeration name d) = s.spell (.named .enum name) := by
  have plain : ∀ d : Descriptor, d.multi = false → d.signature = name → d.isPlain = true := by
    intro d single signature
    have front : d.signature = name ++ "" := signature.trans String.append_empty.symm
    exact Descriptor.isPlain_of_isName single identifier front
  rw [s.spell_of_isPlain rfl (plain _ rfl rfl), s.spell_of_isPlain rfl (plain _ rfl rfl)]
  rfl

theorem spell_withGenerics (c : Category) {name : String} (identifier : Identifier.IsName name)
    (ds : List Descriptor) :
    s.spell ((Descriptor.named c name).withGenerics ds) =
      if ds.isEmpty then s.escaper name (s.file? .detached)
      else applied (s.escaper name (s.file? .detached)) (ds.map s.spell) := by
  obtain ⟨rest, whole, ends⟩ := Descriptor.signature_withGenerics ds
  have front := whole (.named c name)
  have form : ((Descriptor.named c name).withGenerics ds).payloadForm = .generic ds := rfl
  rw [s.spell_of_isPlain rfl (Descriptor.isPlain_of_isName rfl identifier front), form, body,
    s.nameOf_of_isName identifier front ends]
  rfl

theorem spell_func (params : List (Param Descriptor)) (ret : Descriptor) :
    s.spell (.function params ret) = s.body (.function params ret) (.function params ret) := by
  obtain ⟨rest, front⟩ := Descriptor.signature_function params ret
  exact s.spell_of_isPlain rfl (Descriptor.isPlain_of_isName rfl Descriptor.isName_fn front)

end Speller

end BinarySolver
