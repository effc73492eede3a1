/-
# BinarySolver.Proofs.Rereading -- signatures read as type expressions

A signature is written with one blank behind each comma and with no other, so it is a text
of the grammar of the type that it was written for: `FunctionFree.derives_signature`.  The
one leaf that is not written as it is read is `fn`, whose signature shows the parameters
that a function does not have; one bracket too many is left wherever such a leaf stands
(`count_signature`).  **`signature_reads_back`** puts this together with unique reading.
-/
import Mathlib.Algebra.GroupWithZero.Nat
import BinarySolver.Proofs.Reading

namespace BinarySolver

set_option autoImplicit false

namespace TypeTree

/-- No leaf is the name of functions. -/
inductive FunctionFree : TypeTree → Prop
  | name {n : TypeName} (other : n.text ≠ "fn") : FunctionFree (.name n)
  | pointer {t : TypeTree} (target : FunctionFree t) : FunctionFree (.pointer t)
  | array {t : TypeTree} (element : FunctionFree t) : FunctionFree (.array t)
  | slice {t : TypeTree} (element : FunctionFree t) : FunctionFree (.slice t)
  | map {key value : TypeTree} (left : FunctionFree key) (right : FunctionFree value) :
      FunctionFree (.map key value)
  | tuple {first : TypeTree} {rest : List TypeTree} (head : FunctionFree first)
      (tail : ∀ t ∈ rest, FunctionFree t) : FunctionFree (.tuple first rest)

/-! ## Signatures are texts of the grammar -/

/-- Elements behind a comma and a blank each are elements of the grammar. -/
theorem elements_separated {first : TypeTree} {rest : List TypeTree}
    (head : TypeExpr.Derives first.signature first)
    (tail : ∀ t ∈ rest, TypeExpr.Body t.signature t) :
    TypeExpr.Elements (first.signature ++ Text.separated ',' [' '] signature rest) first rest := by
  -- The text before the separators is any that derives the first element: behind a comma
  -- that is a signature with a blank in front.
  have behind : ∀ text t, TypeExpr.Derives text t →
      TypeExpr.Elements (text ++ Text.separated ',' [' '] signature rest) t rest := by
    induction rest with
    | nil =>
        intro text t derived
        rw [Text.separated, List.flatMap_nil, List.append_nil]
        exact .last derived
    | cons u rest ih =>
        intro text t derived
        have padded : TypeExpr.Derives (' ' :: u.signature) u := by
          have whole := TypeExpr.Derives.padded Text.isBlank_space Text.isBlank_nil
            (tail u (.head rest))
          rw [List.append_nil] at whole
          exact whole
        have others := ih (fun v member => tail v (.tail u member)) _ u padded
        exact .more derived others
  exact behind first.signature first head

/-- The signature of a type in which no function stands derives its own tree. -/
theorem FunctionFree.derives_signature {t : TypeTree} (free : t.FunctionFree) :
    TypeExpr.Body t.signature t := by
  induction free with
  | @name n other =>
      rw [signature, TypeName.signature, if_neg other, List.append_nil]
      exact .name n
  | pointer target ih =>
      rw [signature]
      exact .pointer ih.derives
  | array element ih =>
      rw [signature]
      exact .array ih.derives
  | slice element ih =>
      rw [signature]
      exact .slice ih.derives
  | map left right leftIh rightIh =>
      rw [signature]
      exact .map leftIh.derives rightIh.derives
  | tuple head tail headIh tailIh =>
      rw [signature_tuple]
      exact .tuple (elements_separated headIh.derives tailIh)

/-! ## Round brackets -/

/-- The number of tuples in a type. -/
def tuples : TypeTree → Nat
  | name _ => 0
  | pointer t => t.tuples
  | array t => t.tuples
  | slice t => t.tuples
  | map key value => key.tuples + value.tuples
  | tuple first rest => 1 + first.tuples + (rest.map tuples).sum

/-- The number of leaves that are functions. -/
def functions : TypeTree → Nat
  | name n => if n.text = "fn" then 1 else 0
  | pointer t => t.functions
  | array t => t.functions
  | slice t => t.functions
  | map key value => key.functions + value.functions
  | tuple first rest => first.functions + (rest.map functions).sum

theorem functionFree_of_functions {t : TypeTree} (none : t.functions = 0) : t.FunctionFree := by
  induction t with
  | name n =>
      refine .name fun function => ?_
      rw [functions, if_pos function] at none
      cases none
  | pointer t ih =>
      rw [functions] at none
      exact .pointer (ih none)
  | array t ih =>
      rw [functions] at none
      exact .array (ih none)
  | slice t ih =>
      rw [functions] at none
      exact .slice (ih none)
  | map key value keyIh valueIh =>
      rw [functions, Nat.add_eq_zero_iff] at none
      exact .map (keyIh none.1) (valueIh none.2)
  | tuple first rest firstIh restIh =>
      rw [functions, Nat.add_eq_zero_iff, List.sum_eq_zero_iff_forall_eq_nat] at none
      obtain ⟨head, tail⟩ := none
      refine .tuple (firstIh head) fun t member => restIh t member ?_
      exact tail _ (List.mem_map_of_mem member)

theorem count_bracket_name (n : TypeName) : n.text.toList.count '(' = 0 := by
  refine List.count_eq_zero.2 fun bracket => ?_
  exact absurd (n.isLetterOrDigit_of_mem '(' bracket) (by decide)

/-- In a signature a bracket is opened by every tuple and by every function. -/
theorem count_signature (t : TypeTree) : t.signature.count '(' = t.tuples + t.functions := by
  induction t with
  | name n =>
      rw [signature, TypeName.signature, List.count_append, count_bracket_name, tuples, functions]
      split <;> rfl
  | pointer t ih | array t ih | slice t ih => simpa [signature, tuples, functions] using ih
  | map key value keyIh valueIh =>
      simp only [signature, tuples, functions, List.count_append, List.count_cons, List.count_nil,
        keyIh, valueIh]
      simp only [beq_iff_eq, Char.reduceEq, if_false]
      omega
  | tuple first rest firstIh restIh =>
      have tail : (Text.separated ',' [' '] signature rest).count '(' =
          (rest.map tuples).sum + (rest.map functions).sum := by
        clear firstIh
        induction rest with
        | nil => rfl
        | cons u rest ih =>
            have here := restIh u (.head rest)
            have there := ih fun v member => restIh v (.tail u member)
            rw [Text.separated] at there
            simp only [Text.separated, List.flatMap_cons, List.count_append, List.count_cons,
              List.count_nil, List.map_cons, List.sum_cons, there, here]
            simp only [beq_iff_eq, Char.reduceEq, if_false]
            omega
      simp only [signature_tuple, tuples, functions, List.count_append, List.count_cons,
        List.count_nil, firstIh, tail]
      simp only [beq_iff_eq, Char.reduceEq, if_false, if_true]
      omega

end TypeTree

namespace TypeExpr

open TypeTree

theorem count_bracket_blank {text : List Char} (blank : Text.IsBlank text) :
    text.count '(' = 0 := by
  refine List.count_eq_zero.2 fun bracket => ?_
  exact absurd (blank '(' bracket) (by decide)

mutual

/-- In a text of the grammar a bracket is opened by every tuple, and by nothing else. -/
theorem Derives.count_eq : ∀ {text : List Char} {t : TypeTree}, Derives text t →
    text.count '(' = t.tuples
  | _, _, .padded left right visible => by
      rw [List.count_append, List.count_append, count_bracket_blank left,
        count_bracket_blank right, visible.count_eq, Nat.zero_add, Nat.add_zero]

theorem Body.count_eq : ∀ {body : List Char} {t : TypeTree}, Body body t →
    body.count '(' = t.tuples
  | _, _, .pointer target => by simpa [tuples] using target.count_eq
  | _, _, .slice element => by simpa [tuples] using element.count_eq
  | _, _, .array element => by simpa [tuples] using element.count_eq
  | _, _, .map left right => by simp [tuples, left.count_eq, right.count_eq]
  | _, _, .tuple elements => by
      simp [tuples, elements.count_eq]
      omega
  | _, _, .name n => by rw [count_bracket_name, tuples]

theorem Elements.count_eq : ∀ {text : List Char} {t : TypeTree} {ts : List TypeTree},
    Elements text t ts → text.count '(' = t.tuples + (ts.map tuples).sum
  | _, _, _, .last element => by simp [element.count_eq]
  | _, _, _, .more element rest => by simp [element.count_eq, rest.count_eq]

end

/-- **A signature tells its type.**  Types that are read from any two texts are the same
if their signatures are.  The signature of a type that is read from a text is read as this
type again, whatever blanks the text had, if and only if no leaf of the type is `fn`. -/
theorem signature_reads_back :
    (∀ left right d e, read left = .ok d → read right = .ok e → d.signature = e.signature →
      d = e) ∧
    (∀ text t d, Derives text t → read text = .ok d →
      (read d.signature.toList = .ok d ↔ t.FunctionFree)) := by
  constructor
  · intro left right d e leftReads rightReads same
    obtain ⟨t, -, rfl⟩ := exists_derives_of_read left d leftReads
    obtain ⟨u, -, rfl⟩ := exists_derives_of_read right e rightReads
    rw [signature_injective same]
  · intro text t d derived reads
    rw [derived.read_eq] at reads
    cases reads
    rw [signature_descriptor]
    constructor
    · intro again
      obtain ⟨u, written, same⟩ := exists_derives_of_read _ _ again
      obtain rfl := signature_injective (congrArg Descriptor.signature same)
      have brackets := written.count_eq
      rw [count_signature] at brackets
      exact functionFree_of_functions (by omega)
    · intro free
      exact free.derives_signature.derives.read_eq

/-- Blanks around a key and behind a bracket are gone from the signature, a blank behind the
comma is new, and the signature is read as the same map, as is a text with other blanks. -/
theorem signature_reads_back_map :
    ∃ d e, read "[ str :( i32,*Vec)]".toList = .ok d ∧ read "[str:(i32 , *Vec)] ".toList = .ok e ∧
      d.signature = "[str:(i32, *Vec)]" ∧ e.signature = d.signature ∧ d = e ∧
      read "[str:(i32, *Vec)]".toList = .ok d := by
  let str : TypeName := ⟨"str", by decide, by decide⟩
  let i32 : TypeName := ⟨"i32", by decide, by decide⟩
  let Vec : TypeName := ⟨"Vec", by decide, by decide⟩
  let t : TypeTree := .map (.name str) (.tuple (.name i32) [.pointer (.name Vec)])
  have free : t.FunctionFree := by
    refine .map (.name (by decide)) (.tuple (.name (by decide)) fun u member => ?_)
    rw [List.mem_singleton.1 member]
    exact .pointer (.name (by decide))
  have blank := Text.isBlank_space
  have nothing := Text.isBlank_nil
  have vec : Derives ('*' :: "Vec".toList) (.pointer (.name Vec)) :=
    (Body.pointer (Body.name Vec).derives).derives
  have first : read "[ str :( i32,*Vec)]".toList = .ok t.descriptor := by
    have text : "[ str :( i32,*Vec)]".toList = '[' :: ([' '] ++ "str".toList ++ [' '] ++ ':' ::
        ('(' :: ([' '] ++ "i32".toList ++ [] ++ ',' :: '*' :: "Vec".toList) ++ [')'])) ++
          [']'] := rfl
    have tuple := Body.tuple (.more (.padded blank nothing (.name i32)) (.last vec))
    have whole := Body.map (.padded blank blank (.name str)) tuple.derives
    rw [text]
    exact whole.derives.read_eq
  have second : read "[str:(i32 , *Vec)] ".toList = .ok t.descriptor := by
    have text : "[str:(i32 , *Vec)] ".toList = [] ++ ('[' :: ("str".toList ++ ':' :: ('(' ::
        ([] ++ "i32".toList ++ [' '] ++ ',' :: ([' '] ++ '*' :: "Vec".toList ++ [])) ++
          [')'])) ++ [']']) ++ [' '] := rfl
    have tuple := Body.tuple (.more (.padded nothing blank (.name i32))
      (.last (.padded blank nothing (.pointer (Body.name Vec).derives))))
    have whole := Body.map (Body.name str).derives tuple.derives
    rw [text]
    exact (Derives.padded nothing blank whole).read_eq
  have written : t.descriptor.signature = "[str:(i32, *Vec)]" := by
    apply String.toList_injective
    rw [signature_descriptor]
    simp only [t, TypeTree.signature, TypeName.signature, List.flatMap_cons, List.flatMap_nil]
    decide
  obtain ⟨told, again⟩ := signature_reads_back
  obtain ⟨u, derived, same⟩ := exists_derives_of_read _ _ first
  obtain rfl : u = t := signature_injective (congrArg Descriptor.signature same)
  refine ⟨_, _, first, second, written, rfl, told _ _ _ _ first second rfl, ?_⟩
  rw [← written]
  exact (again _ _ _ derived first).2 free

end TypeExpr

end BinarySolver
