/-
# BinarySolver.Proofs.Reading -- reading accepts the texts of the grammar and builds their trees

`readTrimmed` is one step of reading, on a text without blanks around it.  A derivable
text is read as the type of its tree (`Derives.read_eq`), and a text that is read is
derivable (`exists_derives_of_read`).  **`read_exact`** puts the two together.
-/
import BinarySolver.Proofs.Grammar

namespace BinarySolver

set_option autoImplicit false

namespace TypeExpr

/-! ## One step of reading -/

/-- Reads a text that has no blanks around it. -/
def readTrimmed : List Char → Except OperandError Descriptor
  | [] => .error .emptyType
  | '*' :: rest => (read rest).map .pointerTo
  | '[' :: ':' :: ']' :: rest => (read rest).map .sliceOf
  | '[' :: ']' :: rest => (read rest).map .arrayOf
  | '[' :: rest =>
    match beforeLast? ']' rest with
    | none => readName ('[' :: rest)
    | some inner =>
      match splitTopLevel ':' inner with
      | [key, value] => do return .map (← read key) (← read value)
      | _ => .error (.invalidType (String.ofList ('[' :: rest)))
  | '(' :: rest =>
    match beforeLast? ')' rest with
    | none => readName ('(' :: rest)
    | some inner => ((splitTopLevel ',' inner).mapM read).map .tuple
  | name => readName name

theorem attach_mapM_read (parts : List (List Char)) :
    (parts.attach.mapM fun part => read part.1) = parts.mapM read := by
  simp

theorem read_eq (text : List Char) : read text = readTrimmed (Text.trim text) := by
  rw [read]
  -- The cases are those of the definition: only brackets have something to compare inside.
  split <;> rename_i front
  · rw [front]
    rfl
  · rw [front]
    rfl
  · rw [front]
    rfl
  · rw [front]
    rfl
  · rw [front]
    simp only [readTrimmed]
    split <;> rename_i closed
    · rw [closed]
    · rw [closed]
      dsimp only
      split
      · rename_i key value parts
        rw [parts]
        dsimp only
        cases read key <;> cases read value <;> rfl
      · split
        · rename_i other _ key value parts
          exact absurd parts (other key value)
        · rfl
  · rw [front]
    simp only [readTrimmed]
    split <;> rename_i closed
    · rw [closed]
    · rw [closed]
      dsimp only
      rw [attach_mapM_read]
  · unfold readTrimmed
    split <;> simp_all

theorem read_congr {text other : List Char} (same : Text.trim text = Text.trim other) :
    read text = read other := by
  rw [read_eq, read_eq, same]

theorem read_trimEnd (text : List Char) : read (Text.trimEnd text) = read text :=
  read_congr (Text.trim_trimEnd text)

/-! ## Completeness -/

theorem beforeLast?_append_singleton (closing : Char) (inner : List Char) :
    beforeLast? closing (inner ++ [closing]) = some inner := by
  simp [beforeLast?]

/-- A text in square brackets that is no marker is read as a map if it has two parts. -/
theorem readTrimmed_map {c : Char} {inner key value : List Char} (separates : c ≠ ':')
    (closes : c ≠ ']') (parts : splitTopLevel ':' (c :: inner) = [key, value]) :
    readTrimmed ('[' :: c :: inner ++ [']']) = do return .map (← read key) (← read value) := by
  have closed := beforeLast?_append_singleton ']' (c :: inner)
  rw [List.cons_append] at closed
  simp [readTrimmed, separates, closes, closed, parts]

theorem readTrimmed_tuple (inner : List Char) : readTrimmed ('(' :: inner ++ [')']) =
    ((splitTopLevel ',' inner).mapM read).map .tuple := by
  rw [List.cons_append, readTrimmed, beforeLast?_append_singleton]

/-- A text that begins with a letter is read as a name. -/
theorem readTrimmed_name {c : Char} {cs : List Char} (letter : IsLetter c) :
    readTrimmed (c :: cs) = readName (c :: cs) := by
  have other : c ∉ ['*', '[', '('] := Text.not_mem_of_all (by decide) letter
  simp only [List.mem_cons, List.not_mem_nil, or_false, not_or] at other
  unfold readTrimmed
  split <;> simp_all

theorem readName_of_gives {n : TypeName} {d : Descriptor} (gives : n.Gives d) :
    readName n.text.toList = .ok d := by
  have identifier := isName_iff.2 n.isIdentifier
  simp only [readName, identifier, String.ofList_toList, Bool.not_true, Bool.false_eq_true,
    if_false]
  cases gives with
  | scalar c named scalar =>
      rw [Category.ofName?_eq_some_iff.2 named]
      revert scalar
      cases c <;> first | exact fun _ => rfl | exact fun scalar => absurd scalar (by decide)
  | function known => rw [known]; rfl
  | struct other => rw [Category.ofName?_eq_none_iff.2 other]

/-- A name gives one type, which is what is read from it. -/
theorem descriptor_of_gives {n : TypeName} {d : Descriptor} (gives : n.Gives d) :
    n.descriptor = d :=
  Except.ok.inj ((readName_of_gives n.gives_descriptor).symm.trans (readName_of_gives gives))

/-- No body begins with a character that could end a marker. -/
theorem Body.exists_front {body : List Char} {t : TypeTree} (visible : Body body t) :
    ∃ c cs, body = c :: cs ∧ c ≠ ':' ∧ c ≠ ']' := by
  cases visible with
  | name n => exact n.exists_front
  | _ => exact ⟨_, _, rfl, by decide, by decide⟩

theorem Derives.exists_front {text : List Char} {t : TypeTree} (derived : Derives text t) :
    ∃ c cs, text = c :: cs ∧ c ≠ ':' ∧ c ≠ ']' := by
  obtain ⟨left, right, visible⟩ := derived
  rename_i before body after
  cases before with
  | nil =>
      obtain ⟨c, cs, front, separates, closes⟩ := visible.exists_front
      exact ⟨c, cs ++ after, by rw [front]; rfl, separates, closes⟩
  | cons c before =>
      have other := not_mem_of_isBlank (left c (.head before))
      simp only [List.mem_cons, List.not_mem_nil, or_false, not_or] at other
      obtain ⟨-, -, closes, -, separates, -⟩ := other
      exact ⟨c, before ++ body ++ after, rfl, separates, closes⟩

theorem isBlank_eq_false {c : Char} (letter : IsLetterOrDigit c) : Text.isBlank c = false := by
  have bounds := toNat_bounds letter
  simp only [Text.isBlank, Bool.or_eq_false_iff, Bool.and_eq_false_iff, decide_eq_false_iff_not,
    beq_eq_false_iff_ne]
  omega

mutual

theorem Derives.read_eq : ∀ {text : List Char} {t : TypeTree}, Derives text t →
    read text = .ok t.descriptor
  | _, _, .padded left right visible => by
      rw [TypeExpr.read_eq, Text.trim_padded left _ right]
      exact visible.readTrimmed_eq

theorem Body.readTrimmed_eq : ∀ {body : List Char} {t : TypeTree}, Body body t →
    readTrimmed (Text.trim body) = .ok t.descriptor
  | _, _, .pointer target => by
      rw [Text.trim_cons (by decide), readTrimmed, read_trimEnd, target.read_eq,
        TypeTree.descriptor]
      rfl
  | _, _, .slice element => by
      rw [Text.trim_cons (by decide), Text.trimEnd_cons (by decide), Text.trimEnd_cons (by decide),
        readTrimmed, read_trimEnd, element.read_eq, TypeTree.descriptor]
      rfl
  | _, _, .array element => by
      rw [Text.trim_cons (by decide), Text.trimEnd_cons (by decide), readTrimmed, read_trimEnd,
        element.read_eq, TypeTree.descriptor]
      rfl
  | _, _, @Body.map key value k v left right => by
      have parts : splitTopLevel ':' (key ++ ':' :: value) = [key, value] := by
        rw [splitTopLevel_append_cons (by decide) (left.passes (.inl rfl) 0),
          splitTopLevel_of_passes (right.passes (.inl rfl) 0)]
      obtain ⟨c, cs, front, separates, closes⟩ := left.exists_front
      have whole : key ++ ':' :: value = c :: (cs ++ ':' :: value) := by rw [front]; rfl
      rw [Text.trim_enclosed (by decide) (by decide), whole,
        readTrimmed_map separates closes (whole ▸ parts), left.read_eq, right.read_eq,
        TypeTree.descriptor]
      rfl
  | _, _, .tuple elements => by
      rw [Text.trim_enclosed (by decide) (by decide), readTrimmed_tuple, elements.mapM_read,
        TypeTree.descriptor]
      rfl
  | _, _, .name n => by
      obtain ⟨c, cs, front, letter⟩ := n.exists_letter
      have visible : ∀ c ∈ n.text.toList, Text.isBlank c = false := by
        intro c member
        exact isBlank_eq_false (n.isLetterOrDigit_of_mem c member)
      rw [Text.trim_of_visible visible, front, readTrimmed_name letter, ← front,
        readName_of_gives n.gives_descriptor, TypeTree.descriptor]

theorem Elements.mapM_read : ∀ {text : List Char} {t : TypeTree} {ts : List TypeTree},
    Elements text t ts →
      (splitTopLevel ',' text).mapM read = .ok (t.descriptor :: ts.map TypeTree.descriptor)
  | _, _, _, .last element => by
      rw [splitTopLevel_of_passes (element.passes (.inr rfl) 0), List.mapM_cons, element.read_eq]
      rfl
  | _, _, _, .more element rest => by
      rw [splitTopLevel_append_cons (by decide) (element.passes (.inr rfl) 0), List.mapM_cons,
        element.read_eq, rest.mapM_read]
      rfl

end

/-! ## Soundness -/

section Results

variable {α β : Type} {x : Except OperandError α} {b : β}

theorem exists_of_map_eq_ok {f : α → β} (done : x.map f = .ok b) :
    ∃ a, x = .ok a ∧ f a = b := by
  cases x with
  | error e => cases done
  | ok a =>
      cases done
      exact ⟨a, rfl, rfl⟩

theorem exists_of_bind_eq_ok {f : α → Except OperandError β} (done : x >>= f = .ok b) :
    ∃ a, x = .ok a ∧ f a = .ok b := by
  cases x with
  | error e => cases done
  | ok a => exact ⟨a, rfl, done⟩

end Results

theorem eq_append_of_beforeLast? {closing : Char} {text inner : List Char}
    (closed : beforeLast? closing text = some inner) : text = inner ++ [closing] := by
  unfold beforeLast? at closed
  split at closed
  · rename_i last
    cases closed
    exact (List.dropLast_append_getLast? closing last).symm
  · cases closed

theorem isName_of_readName {text : List Char} {d : Descriptor} (reads : readName text = .ok d) :
    isName text = true := by
  by_contra other
  rw [readName, if_pos (by simpa using other)] at reads
  cases reads

theorem readName_reserved {text : List Char} (reserved : String.ofList text ∈ reservedNames) :
    readName text = .error (.invalidType (String.ofList text)) := by
  unfold readName
  split
  · rfl
  · simp only [reservedNames, List.mem_cons, List.not_mem_nil, or_false] at reserved
    rcases reserved with same | same | same | same | same <;> rw [same] <;> rfl

theorem exists_of_readName {text : List Char} {d : Descriptor} (reads : readName text = .ok d) :
    ∃ n : TypeName, n.text.toList = text ∧ n.descriptor = d := by
  have unreserved : String.ofList text ∉ reservedNames := by
    intro reserved
    rw [readName_reserved reserved] at reads
    cases reads
  have same : (String.ofList text).toList = text := String.toList_ofList
  have identifier : IsIdentifier (String.ofList text).toList := by
    rw [same]
    exact isName_iff.1 (isName_of_readName reads)
  let n : TypeName := ⟨String.ofList text, identifier, unreserved⟩
  have whole : readName text = .ok n.descriptor := by
    rw [← readName_of_gives n.gives_descriptor, same]
  rw [reads] at whole
  exact ⟨n, same, (Except.ok.inj whole).symm⟩

/-- What is read from a text is the type of a tree that the text derives. -/
def ReadsDerived (text : List Char) : Prop :=
  ∀ d, read text = .ok d → ∃ t, Derives text t ∧ t.descriptor = d

theorem exists_elements_of_mapM {part : List Char} {parts : List (List Char)}
    {ds : List Descriptor} (derived : ∀ text ∈ part :: parts, ReadsDerived text)
    (reads : (part :: parts).mapM read = .ok ds) :
    ∃ t ts, Elements (joinParts ',' (part :: parts)) t ts ∧
      (t :: ts).map TypeTree.descriptor = ds := by
  induction parts generalizing part ds with
  | nil =>
      rw [List.mapM_cons] at reads
      obtain ⟨d, here, reads⟩ := exists_of_bind_eq_ok reads
      obtain ⟨t, element, rfl⟩ := derived part (.head _) d here
      refine ⟨t, [], ?_, Except.ok.inj reads⟩
      rw [joinParts, List.flatMap_nil, List.append_nil]
      exact .last element
  | cons next parts ih =>
      rw [List.mapM_cons] at reads
      obtain ⟨d, here, reads⟩ := exists_of_bind_eq_ok reads
      obtain ⟨others, there, reads⟩ := exists_of_bind_eq_ok reads
      obtain ⟨t, element, rfl⟩ := derived part (.head _) d here
      obtain ⟨u, us, rest, rfl⟩ := ih (fun text member => derived text (.tail part member)) there
      exact ⟨t, u :: us, .more element rest, Except.ok.inj reads⟩

theorem exists_map_of_parts {inner key value : List Char} {d : Descriptor}
    (parts : splitTopLevel ':' inner = [key, value]) (left : ReadsDerived key)
    (right : ReadsDerived value)
    (reads : (do return .map (← read key) (← read value)) =
      (.ok d : Except OperandError Descriptor)) :
    ∃ t, Body ('[' :: inner ++ [']']) t ∧ t.descriptor = d := by
  obtain ⟨k, keyRead, reads⟩ := exists_of_bind_eq_ok reads
  obtain ⟨v, valueRead, reads⟩ := exists_of_bind_eq_ok reads
  obtain ⟨t, keyDerived, rfl⟩ := left k keyRead
  obtain ⟨u, valueDerived, rfl⟩ := right v valueRead
  have whole : joinParts ':' (splitTopLevel ':' inner) = inner := joinParts_splitFrom 0 inner
  rw [parts] at whole
  obtain rfl : key ++ ':' :: value = inner := by simpa [joinParts] using whole
  refine ⟨.map t u, .map keyDerived valueDerived, ?_⟩
  rw [TypeTree.descriptor]
  exact Except.ok.inj reads

theorem exists_tuple_of_elements {inner : List Char} {ds : List Descriptor}
    (derived : ∀ part ∈ splitTopLevel ',' inner, ReadsDerived part)
    (reads : (splitTopLevel ',' inner).mapM read = .ok ds) :
    ∃ t, Body ('(' :: inner ++ [')']) t ∧ t.descriptor = .tuple ds := by
  have whole : joinParts ',' (splitTopLevel ',' inner) = inner := joinParts_splitFrom 0 inner
  cases parts : splitTopLevel ',' inner with
  | nil => exact absurd parts (splitFrom_ne_nil 0 inner)
  | cons part others =>
      rw [parts] at derived reads whole
      obtain ⟨t, ts, elements, rfl⟩ := exists_elements_of_mapM derived reads
      rw [whole] at elements
      exact ⟨.tuple t ts, .tuple elements, by rw [TypeTree.descriptor, List.map_cons]⟩

/-- A step of reading is sound if reading is so on all shorter texts. -/
theorem exists_body_of_readTrimmed {body : List Char} {d : Descriptor}
    (sound : ∀ text, text.length < body.length → ReadsDerived text)
    (reads : readTrimmed body = .ok d) : ∃ t, Body body t ∧ t.descriptor = d := by
  have named : ∀ text, readName text = .ok d → ∃ t, Body text t ∧ t.descriptor = d := by
    intro text reads
    obtain ⟨n, rfl, rfl⟩ := exists_of_readName reads
    exact ⟨.name n, .name n, by rw [TypeTree.descriptor]⟩
  unfold readTrimmed at reads
  split at reads
  · cases reads
  · obtain ⟨e, target, rfl⟩ := exists_of_map_eq_ok reads
    obtain ⟨t, derived, rfl⟩ := sound _ (by simp) e target
    exact ⟨.pointer t, .pointer derived, by rw [TypeTree.descriptor]⟩
  · obtain ⟨e, element, rfl⟩ := exists_of_map_eq_ok reads
    obtain ⟨t, derived, rfl⟩ := sound _ (by simp only [List.length_cons]; omega) e element
    exact ⟨.slice t, .slice derived, by rw [TypeTree.descriptor]⟩
  · obtain ⟨e, element, rfl⟩ := exists_of_map_eq_ok reads
    obtain ⟨t, derived, rfl⟩ := sound _ (by simp only [List.length_cons]; omega) e element
    exact ⟨.array t, .array derived, by rw [TypeTree.descriptor]⟩
  · split at reads
    · exact named _ reads
    · rename_i inner closed
      obtain rfl := eq_append_of_beforeLast? closed
      split at reads
      · rename_i key value parts
        have short : ∀ part ∈ splitTopLevel ':' inner, ReadsDerived part := by
          intro part member
          have bound := length_le_of_mem_splitFrom ':' 0 inner part member
          exact sound part (by simp only [List.length_cons, List.length_append]; omega)
        rw [parts] at short
        exact exists_map_of_parts parts (short key (by simp)) (short value (by simp)) reads
      · cases reads
  · split at reads
    · exact named _ reads
    · rename_i inner closed
      obtain rfl := eq_append_of_beforeLast? closed
      obtain ⟨ds, elements, rfl⟩ := exists_of_map_eq_ok reads
      refine exists_tuple_of_elements (fun part member => ?_) elements
      have bound := length_le_of_mem_splitFrom ',' 0 inner part member
      exact sound part (by simp only [List.length_cons, List.length_append]; omega)
  · exact named _ reads

theorem exists_derives_of_read (text : List Char) : ReadsDerived text := by
  intro d reads
  obtain ⟨before, after, left, right, whole⟩ := Text.exists_trim text
  rw [read_eq] at reads
  -- Parts are shorter than what is left of the text, so this is an induction on its length.
  have shorter : ∀ part, part.length < (Text.trim text).length → ReadsDerived part := by
    intro part bound
    have trimmed := Text.length_trim_le text
    exact exists_derives_of_read part
  obtain ⟨t, visible, rfl⟩ := exists_body_of_readTrimmed shorter reads
  rw [whole]
  exact ⟨t, .padded left right visible, rfl⟩
termination_by text.length

theorem Derives.unique {text : List Char} {t u : TypeTree} (left : Derives text t)
    (right : Derives text u) : t = u := by
  have same := left.read_eq
  rw [right.read_eq] at same
  exact TypeTree.signature_injective (congrArg Descriptor.signature (Except.ok.inj same).symm)

/-- **Reading accepts the texts of the grammar, each in one way, and builds their types.** -/
theorem read_exact (text : List Char) :
    (∀ d, read text = .ok d ↔ ∃ t, Derives text t ∧ t.descriptor = d) ∧
      (∀ t u, Derives text t → Derives text u → t = u) ∧
      ((∃ e, read text = .error e) ↔ ¬ ∃ t, Derives text t) := by
  refine ⟨?_, ?_, ?_⟩
  · intro d
    constructor
    · exact exists_derives_of_read text d
    · rintro ⟨t, derived, rfl⟩
      exact derived.read_eq
  · intro t u left right
    exact left.unique right
  · constructor
    · rintro ⟨e, failed⟩ ⟨t, derived⟩
      rw [derived.read_eq] at failed
      cases failed
    · intro none
      cases result : read text with
      | error e => exact ⟨e, rfl⟩
      | ok d =>
          obtain ⟨t, derived, -⟩ := exists_derives_of_read text d result
          exact absurd ⟨t, derived⟩ none

end TypeExpr

end BinarySolver
