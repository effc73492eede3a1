/-
# BinarySolver.Proofs.UniqueReading -- texts that can be read in one way only

A text written for a value is read uniquely if it tells the value and where the text
ends, whatever follows (`Text.ReadsUniquely`).  Unique reading passes from parts to what
is written around them: from elements to a list of them between separators
(`Text.list_append_inj`), and from the parts of a type to the type.  So the signature of a
type expression tells its tree (`TypeTree.signature_injective`).
-/
import BinarySolver.Proofs.TypeTree

namespace BinarySolver

set_option autoImplicit false

namespace Text

/-- What may follow a part of a text: nothing, or something that begins with a stop. -/
def Follows (stops : List Char) (rest : List Char) : Prop := ∀ c ∈ rest.head?, c ∈ stops

variable {stops : List Char}

/-- What is tested of each character of a text holds of its characters. -/
theorem forall_mem_of_all {p : Char → Prop} [DecidablePred p] {text : List Char}
    (tested : (text.all fun c => decide (p c)) = true) : ∀ c ∈ text, p c := by
  intro c member
  exact of_decide_eq_true (List.all_eq_true.1 tested c member)

/-- What is false of each character of a text tells others from them. -/
theorem not_mem_of_all {p : Char → Prop} [DecidablePred p] {text : List Char} {c : Char}
    (tested : (text.all fun d => decide (¬ p d)) = true) (holds : p c) : c ∉ text := by
  intro member
  exact forall_mem_of_all tested c member holds

theorem follows_nil (stops : List Char) : Follows stops [] := by
  intro c member
  cases member

theorem follows_cons {c : Char} (stop : c ∈ stops) (rest : List Char) :
    Follows stops (c :: rest) := by
  intro d member
  cases member
  exact stop

/-- A word ends where the first character stands that cannot belong to it. -/
theorem word_append_inj {p : Char → Prop} {u v x y : List Char} (left : ∀ c ∈ u, p c)
    (right : ∀ c ∈ v, p c) (leftEnd : ∀ c ∈ x.head?, ¬ p c) (rightEnd : ∀ c ∈ y.head?, ¬ p c)
    (same : u ++ x = v ++ y) : u = v ∧ x = y := by
  induction u generalizing v with
  | nil =>
      cases v with
      | nil => exact ⟨rfl, same⟩
      | cons d v =>
          subst same
          exact absurd (right d (.head v)) (leftEnd d rfl)
  | cons c u ih =>
      cases v with
      | nil =>
          subst same
          exact absurd (left c (.head u)) (rightEnd c rfl)
      | cons d v =>
          obtain ⟨rfl, tails⟩ := List.cons.inj same
          obtain ⟨rfl, rest⟩ := ih (fun e member => left e (.tail c member))
            (fun e member => right e (.tail c member)) tails
          exact ⟨rfl, rest⟩

/-- What is written for `a` tells `a` and its own end, whatever follows. -/
def ReadsUniquely {α : Type} (write : α → List Char) (stops : List Char) (a : α) : Prop :=
  ∀ b x y, Follows stops x → Follows stops y → write a ++ x = write b ++ y → a = b ∧ x = y

variable {α : Type} {write : α → List Char}

theorem ReadsUniquely.eq {a b : α} (unique : ReadsUniquely write stops a)
    (same : write a = write b) : a = b :=
  (unique b [] [] (follows_nil stops) (follows_nil stops) (congrArg (· ++ []) same)).1

/-! ## Lists -/

section Lists

variable {separator closing : Char} {blanks : List Char}

/-- The elements of a list, each behind a separator. -/
def separated (separator : Char) (blanks : List Char) (write : α → List Char) (as : List α) :
    List Char :=
  as.flatMap fun a => separator :: blanks ++ write a

theorem follows_separated (separates : separator ∈ stops) (closes : closing ∈ stops)
    (as : List α) (x : List Char) :
    Follows stops (separated separator blanks write as ++ closing :: x) := by
  cases as with
  | nil => exact follows_cons closes x
  | cons a as => exact follows_cons separates _

theorem separated_append_inj (separates : separator ∈ stops) (closes : closing ∈ stops)
    (different : separator ≠ closing) {as : List α}
    (unique : ∀ a ∈ as, ReadsUniquely write stops a) (bs : List α) (x y : List Char)
    (same : separated separator blanks write as ++ closing :: x =
      separated separator blanks write bs ++ closing :: y) : as = bs ∧ x = y := by
  induction as generalizing bs with
  | nil =>
      cases bs with
      | nil => exact ⟨rfl, (List.cons.inj same).2⟩
      | cons b bs => exact absurd (List.cons.inj same).1.symm different
  | cons a as ih =>
      cases bs with
      | nil => exact absurd (List.cons.inj same).1 different
      | cons b bs =>
          have heads : write a ++ (separated separator blanks write as ++ closing :: x) =
              write b ++ (separated separator blanks write bs ++ closing :: y) := by
            simpa [separated] using same
          obtain ⟨rfl, tails⟩ := unique a (.head as) b _ _
            (follows_separated separates closes as x)
            (follows_separated separates closes bs y) heads
          obtain ⟨rfl, rest⟩ := ih (fun c member => unique c (.tail a member)) bs tails
          exact ⟨rfl, rest⟩

/-- A list with at least one element, up to the character that closes it. -/
theorem list_append_inj (separates : separator ∈ stops) (closes : closing ∈ stops)
    (different : separator ≠ closing) {a : α} {as : List α}
    (first : ReadsUniquely write stops a) (unique : ∀ a ∈ as, ReadsUniquely write stops a)
    (b : α) (bs : List α) (x y : List Char)
    (same : write a ++ separated separator blanks write as ++ closing :: x =
      write b ++ separated separator blanks write bs ++ closing :: y) :
    a = b ∧ as = bs ∧ x = y := by
  rw [List.append_assoc, List.append_assoc] at same
  obtain ⟨rfl, tails⟩ := first b _ _ (follows_separated separates closes as x)
    (follows_separated separates closes bs y) same
  obtain ⟨rfl, rest⟩ := separated_append_inj separates closes different unique bs x y tails
  exact ⟨rfl, rfl, rest⟩

end Lists

end Text

instance : DecidablePred IsLetter := fun c => by
  unfold IsLetter
  infer_instance

instance : DecidablePred IsLetterOrDigit := fun c => by
  unfold IsLetterOrDigit
  infer_instance

namespace TypeName

/-- The text of a name begins with a letter. -/
theorem exists_letter (n : TypeName) : ∃ c cs, n.text.toList = c :: cs ∧ IsLetter c := by
  have identifier := n.isIdentifier
  cases front : n.text.toList with
  | nil =>
      rw [front] at identifier
      exact identifier.elim
  | cons c cs =>
      rw [front] at identifier
      exact ⟨c, cs, rfl, identifier.1⟩

/-- The text of a name begins with no character that could end a marker. -/
theorem exists_front (n : TypeName) : ∃ c cs, n.text.toList = c :: cs ∧ c ≠ ':' ∧ c ≠ ']' := by
  obtain ⟨c, cs, front, letter⟩ := n.exists_letter
  have other : c ∉ [':', ']'] := Text.not_mem_of_all (by decide) letter
  simp only [List.mem_cons, List.not_mem_nil, or_false, not_or] at other
  exact ⟨c, cs, front, other⟩

theorem isLetterOrDigit_of_mem (n : TypeName) : ∀ c ∈ n.text.toList, IsLetterOrDigit c := by
  intro c member
  have identifier := n.isIdentifier
  cases front : n.text.toList with
  | nil =>
      rw [front] at member
      cases member
  | cons d ds =>
      rw [front] at identifier member
      rcases List.mem_cons.1 member with rfl | member
      · exact .inl identifier.1
      · exact identifier.2 c member

/-- Behind a name stands what cannot belong to it. -/
theorem text_append_inj {n m : TypeName} {x y : List Char}
    (leftEnd : ∀ c ∈ x.head?, ¬ IsLetterOrDigit c) (rightEnd : ∀ c ∈ y.head?, ¬ IsLetterOrDigit c)
    (same : n.text.toList ++ x = m.text.toList ++ y) : n = m ∧ x = y := by
  obtain ⟨texts, rest⟩ := Text.word_append_inj n.isLetterOrDigit_of_mem m.isLetterOrDigit_of_mem
    leftEnd rightEnd same
  exact ⟨ext (String.toList_injective texts), rest⟩

end TypeName

namespace TypeTree

open Text

/-- The characters that stand behind a type in a signature. -/
def signatureStops : List Char := [':', ']', ',', ')']

theorem name_signature_append_ne {n : TypeName} {c : Char} {cs x : List Char}
    (other : ¬ IsLetter c) : n.signature ++ x ≠ c :: cs := by
  intro same
  obtain ⟨d, ds, front, letter⟩ := n.exists_letter
  rw [TypeName.signature, front] at same
  obtain ⟨rfl, -⟩ := List.cons.inj same
  exact other letter

/-- The text of a name tells the name and its end. -/
theorem readsUniquely_name (n m : TypeName) (x y : List Char)
    (leftEnd : Follows signatureStops x) (rightEnd : Follows signatureStops y)
    (same : n.signature ++ x = m.signature ++ y) : n = m ∧ x = y := by
  have stops : ∀ c ∈ signatureStops, ¬ IsLetterOrDigit c := Text.forall_mem_of_all (by decide)
  have ends : ∀ (k : TypeName) (z : List Char), Follows signatureStops z →
      ∀ c ∈ ((if k.text = "fn" then ['(', ')'] else []) ++ z).head?, ¬ IsLetterOrDigit c := by
    intro k z follows c member
    split at member
    · cases member
      decide
    · exact stops c (follows c member)
  simp only [TypeName.signature, List.append_assoc] at same
  obtain ⟨rfl, tails⟩ := TypeName.text_append_inj (ends n x leftEnd) (ends m y rightEnd) same
  exact ⟨rfl, List.append_cancel_left tails⟩

/-- No signature begins with a character that could end a marker. -/
theorem exists_signature_front (t : TypeTree) :
    ∃ c cs, t.signature = c :: cs ∧ c ≠ ':' ∧ c ≠ ']' := by
  cases t with
  | name n =>
      obtain ⟨c, cs, front, separates, closes⟩ := n.exists_front
      exact ⟨c, cs ++ _, by rw [signature, TypeName.signature, front]; rfl, separates, closes⟩
  | pointer => exact ⟨_, _, by rw [signature], by decide, by decide⟩
  | array => exact ⟨_, _, by rw [signature], by decide, by decide⟩
  | slice => exact ⟨_, _, by rw [signature], by decide, by decide⟩
  | map => exact ⟨_, _, by rw [signature]; rfl, by decide, by decide⟩
  | tuple => exact ⟨_, _, by rw [signature]; rfl, by decide, by decide⟩

/-- The key of a map does not begin like the rest of a marker. -/
theorem signature_append_ne {t : TypeTree} {c : Char} {cs x : List Char}
    (closes : c = ':' ∨ c = ']') : t.signature ++ x ≠ c :: cs := by
  intro same
  obtain ⟨d, ds, front, separator, bracket⟩ := t.exists_signature_front
  rw [front] at same
  obtain ⟨rfl, -⟩ := List.cons.inj same
  rcases closes with rfl | rfl
  · exact separator rfl
  · exact bracket rfl

theorem signature_tuple (first : TypeTree) (rest : List TypeTree) :
    (tuple first rest).signature =
      '(' :: first.signature ++ separated ',' [' '] signature rest ++ [')'] := by
  rw [signature]
  rfl

/-! ### What the front of a signature tells -/

section Front

variable {u : TypeTree} {x text : List Char}

theorem eq_pointer_of_front (front : '*' :: text = u.signature ++ x) :
    ∃ t, u = .pointer t ∧ text = t.signature ++ x := by
  cases u with
  | name n =>
      rw [signature] at front
      exact absurd front.symm (name_signature_append_ne (by decide))
  | pointer t => exact ⟨t, rfl, by simpa [signature] using front⟩
  | _ => simp [signature] at front

theorem eq_array_of_front (front : '[' :: ']' :: text = u.signature ++ x) :
    ∃ t, u = .array t ∧ text = t.signature ++ x := by
  cases u with
  | name n =>
      rw [signature] at front
      exact absurd front.symm (name_signature_append_ne (by decide))
  | array t => exact ⟨t, rfl, by simpa [signature] using front⟩
  | map key value =>
      simp only [signature, List.cons_append, List.append_assoc, List.cons.injEq, true_and] at front
      exact absurd front.symm (signature_append_ne (.inr rfl))
  | _ => simp [signature] at front

theorem eq_slice_of_front (front : '[' :: ':' :: ']' :: text = u.signature ++ x) :
    ∃ t, u = .slice t ∧ text = t.signature ++ x := by
  cases u with
  | name n =>
      rw [signature] at front
      exact absurd front.symm (name_signature_append_ne (by decide))
  | slice t => exact ⟨t, rfl, by simpa [signature] using front⟩
  | map key value =>
      simp only [signature, List.cons_append, List.append_assoc, List.cons.injEq, true_and] at front
      exact absurd front.symm (signature_append_ne (.inl rfl))
  | _ => simp [signature] at front

theorem eq_map_of_front {t : TypeTree} (front : '[' :: (t.signature ++ text) = u.signature ++ x) :
    ∃ key value, u = .map key value ∧
      t.signature ++ text = key.signature ++ ':' :: (value.signature ++ ']' :: x) := by
  cases u with
  | name n =>
      rw [signature] at front
      exact absurd front.symm (name_signature_append_ne (by decide))
  | array t =>
      simp only [signature, List.cons_append, List.cons.injEq, true_and] at front
      exact absurd front (signature_append_ne (.inr rfl))
  | slice t =>
      simp only [signature, List.cons_append, List.cons.injEq, true_and] at front
      exact absurd front (signature_append_ne (.inl rfl))
  | map key value => exact ⟨key, value, rfl, by simpa [signature] using front⟩
  | _ => simp [signature] at front

theorem eq_tuple_of_front (front : '(' :: text = u.signature ++ x) :
    ∃ first rest, u = .tuple first rest ∧
      text = first.signature ++ separated ',' [' '] signature rest ++ ')' :: x := by
  cases u with
  | name n =>
      rw [signature] at front
      exact absurd front.symm (name_signature_append_ne (by decide))
  | tuple first rest =>
      rw [signature_tuple] at front
      refine ⟨first, rest, rfl, ?_⟩
      simpa using front
  | _ => simp [signature] at front

theorem eq_name_of_front {n : TypeName} (front : n.signature ++ text = u.signature ++ x) :
    ∃ m, u = .name m ∧ n.signature ++ text = m.signature ++ x := by
  cases u with
  | name m => exact ⟨m, rfl, by simpa only [signature] using front⟩
  | _ =>
      simp only [signature, List.cons_append] at front
      exact absurd front (name_signature_append_ne (by decide))

end Front

/-- A signature tells its tree and its end. -/
theorem readsUniquely_signature (t : TypeTree) : ReadsUniquely signature signatureStops t := by
  induction t with
  | name n =>
      intro u x y leftEnd rightEnd same
      rw [signature] at same
      obtain ⟨m, rfl, names⟩ := eq_name_of_front same
      obtain ⟨rfl, ends⟩ := readsUniquely_name n m x y leftEnd rightEnd names
      exact ⟨rfl, ends⟩
  | pointer t ih =>
      intro u x y leftEnd rightEnd same
      rw [signature] at same
      obtain ⟨v, rfl, targets⟩ := eq_pointer_of_front same
      obtain ⟨rfl, ends⟩ := ih v x y leftEnd rightEnd targets
      exact ⟨rfl, ends⟩
  | array t ih =>
      intro u x y leftEnd rightEnd same
      rw [signature] at same
      obtain ⟨v, rfl, elements⟩ := eq_array_of_front same
      obtain ⟨rfl, ends⟩ := ih v x y leftEnd rightEnd elements
      exact ⟨rfl, ends⟩
  | slice t ih =>
      intro u x y leftEnd rightEnd same
      rw [signature] at same
      obtain ⟨v, rfl, elements⟩ := eq_slice_of_front same
      obtain ⟨rfl, ends⟩ := ih v x y leftEnd rightEnd elements
      exact ⟨rfl, ends⟩
  | map key value keyIh valueIh =>
      intro u x y leftEnd rightEnd same
      simp only [signature, List.cons_append, List.append_assoc] at same
      obtain ⟨otherKey, otherValue, rfl, keys⟩ := eq_map_of_front same
      obtain ⟨rfl, values⟩ := keyIh otherKey _ _ (follows_cons (by decide) _)
        (follows_cons (by decide) _) keys
      obtain ⟨rfl, ends⟩ := valueIh otherValue _ _ (follows_cons (by decide) _)
        (follows_cons (by decide) _) (List.cons.inj values).2
      exact ⟨rfl, (List.cons.inj ends).2⟩
  | tuple first rest firstIh restIh =>
      intro u x y leftEnd rightEnd same
      simp only [signature_tuple, List.cons_append, List.append_assoc] at same
      obtain ⟨otherFirst, otherRest, rfl, lists⟩ := eq_tuple_of_front same
      rw [← List.append_assoc] at lists
      obtain ⟨rfl, rfl, ends⟩ := list_append_inj (by decide) (by decide) (by decide) firstIh restIh
        otherFirst otherRest x y lists
      exact ⟨rfl, ends⟩

theorem signature_injective {t u : TypeTree}
    (same : t.descriptor.signature = u.descriptor.signature) : t = u := by
  have texts := congrArg String.toList same
  rw [signature_descriptor, signature_descriptor] at texts
  exact t.readsUniquely_signature.eq texts

end TypeTree

end BinarySolver
