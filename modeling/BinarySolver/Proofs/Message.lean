/-
# BinarySolver.Proofs.Message -- what becomes of the places of a template

A template has one place or two, between characters of which no place is made, so that no
text that is put in completes a place with the text around it.  Filling the places one
after the other is filling them all at once, but with arguments into which the later ones
have been filled: **`message_inTurn`**.  The two agree exactly if that leaves the arguments
of the template as they were; an argument that holds the place of a later one is expanded
(`message_place_in_argument`).
-/
import BinarySolver.Diagnostic
import BinarySolver.Proofs.Substitution

namespace BinarySolver.DiagnosticKind

set_option autoImplicit false

open Text (Rule substitute substituteAll)

/-! ## Filling all at once -/

/-- The rules that fill the places that have an argument. -/
def rules (arguments : List String) : List Rule :=
  arguments.mapIdx fun i argument => ⟨placeholder i, argument.toList⟩

/-- The template with the arguments put into their places, all at once. -/
def filled (k : DiagnosticKind) (arguments : List String) : String :=
  String.ofList (substituteAll (rules arguments) k.template.toList)

/-- The arguments, each with those that follow it filled into it. -/
def inTurn (arguments : List String) : List String :=
  arguments.mapIdx fun i argument =>
    String.ofList (fill (i + 1) (arguments.drop (i + 1)) argument.toList)

/-- The numbers of the places in a template. -/
def places : DiagnosticKind → List Nat
  | incompatibleTypes | operatorNotForType => [0, 1]
  | logicalNotBool | divideByZero | bitshiftMustUnsigned => [0]

/-! ## Places -/

theorem isDigit_of_mem_decimalText {n : Nat} {c : Char} (member : c ∈ Numeral.decimalText n) :
    c.isDigit = true :=
  Nat.isDigit_of_mem_toDigits (by decide) (by decide) member

theorem decimalText_injective {m n : Nat} (same : Numeral.decimalText m = Numeral.decimalText n) :
    m = n := by
  have values := congrArg (fun digits => Nat.ofDigitChars 10 digits 0) same
  dsimp only [Numeral.decimalText] at values
  rwa [Nat.ofDigitChars_ten_toDigits, Nat.ofDigitChars_ten_toDigits] at values

theorem decimalText_append_inj {i j : Nat} {left right : List Char}
    (same : Numeral.decimalText i ++ '\x7d' :: left = Numeral.decimalText j ++ '\x7d' :: right) :
    i = j := by
  have digits : ∀ n rest, (Numeral.decimalText n ++ '\x7d' :: rest).takeWhile Char.isDigit =
      Numeral.decimalText n := by
    intro n rest
    rw [List.takeWhile_append_of_pos fun c member => isDigit_of_mem_decimalText member,
      List.takeWhile_cons_of_neg (by decide), List.append_nil]
  have taken := congrArg (List.takeWhile Char.isDigit) same
  rw [digits, digits] at taken
  exact decimalText_injective taken

/-- No place stands in another. -/
theorem placeholder_infix_iff {i j : Nat} : placeholder i <:+: placeholder j ↔ i = j := by
  refine ⟨?_, fun same => same ▸ List.infix_refl _⟩
  rintro ⟨before, after, whole⟩
  cases before with
  | nil =>
      simp only [placeholder, List.nil_append, List.cons_append, List.append_assoc,
        List.cons.injEq, true_and] at whole
      exact decimalText_append_inj whole
  | cons c cs =>
      have inside : '\x7b' ∈ Numeral.decimalText j ++ ['\x7d'] := by
        simp only [placeholder, List.cons_append, List.cons.injEq] at whole
        rw [← whole.2]
        simp
      rcases List.mem_append.1 inside with digit | closing
      · exact absurd (isDigit_of_mem_decimalText digit) (by decide)
      · exact absurd closing (by decide)

/-- A character of which no place is made. -/
def IsNeutral (c : Char) : Prop := ∀ i, c ∉ placeholder i

theorem isNeutral_of_ne {c : Char} (opening : c ≠ '\x7b') (closing : c ≠ '\x7d')
    (digit : c.isDigit = false) : IsNeutral c := by
  intro i member
  rw [placeholder, List.cons_append, List.mem_cons, List.mem_append, List.mem_singleton] at member
  rcases member with first | inside | last
  · exact opening first
  · rw [isDigit_of_mem_decimalText inside] at digit
    cases digit
  · exact closing last

/-! ## What is put into a place -/

/-- A place that has an argument holds it, another one stays. -/
def put (arguments : List String) (i : Nat) : List Char :=
  (arguments[i]?.map String.toList).getD (placeholder i)

theorem put_of_getElem? {arguments : List String} {i : Nat} {argument : String}
    (given : arguments[i]? = some argument) : put arguments i = argument.toList := by
  rw [put, given]
  rfl

theorem put_of_getElem?_eq_none {arguments : List String} {i : Nat}
    (missing : arguments[i]? = none) : put arguments i = placeholder i := by
  rw [put, missing]
  rfl

theorem placeholder_ne_nil (i : Nat) : placeholder i ≠ [] := List.cons_ne_nil _ _

/-- At the place of an argument its own rule is the first one that fits. -/
theorem find?_rules {arguments : List String} {i : Nat} {argument : String}
    (given : arguments[i]? = some argument) :
    (rules arguments).find? (Rule.fits (placeholder i)) =
      some ⟨placeholder i, argument.toList⟩ := by
  obtain ⟨inside, rfl⟩ := List.getElem?_eq_some_iff.1 given
  refine List.find?_eq_some_iff_getElem.2 ⟨Rule.fits_old (placeholder_ne_nil i), i, ?_, ?_, ?_⟩
  · rwa [rules, List.length_mapIdx]
  · simp only [rules, List.getElem_mapIdx]
  · intro j earlier
    simp only [rules, List.getElem_mapIdx, Bool.not_eq_true', ← Bool.not_eq_true]
    intro fits
    have same := placeholder_infix_iff.1 (Rule.isPrefix_of_fits fits).isInfix
    exact Nat.ne_of_lt earlier same

theorem substituteAll_placeholder (arguments : List String) (i : Nat) :
    substituteAll (rules arguments) (placeholder i) = put arguments i := by
  cases given : arguments[i]? with
  | none =>
      rw [put_of_getElem?_eq_none given]
      refine Text.substituteAll_of_not_infix fun rule member inside => ?_
      obtain ⟨j, few, rfl⟩ := List.mem_mapIdx.1 member
      have same := placeholder_infix_iff.1 inside
      exact absurd (List.getElem?_eq_none_iff.1 given) (by omega)
  | some argument =>
      rw [put_of_getElem? given]
      exact Text.substituteAll_old ⟨placeholder i, argument.toList⟩ (find?_rules given)

/-- A place receives its argument, into which the later ones are filled. -/
theorem fill_placeholder (i n : Nat) (arguments : List String) :
    fill i arguments (placeholder (i + n)) =
      (arguments[n]?.map fun argument =>
        fill (i + n + 1) (arguments.drop (n + 1)) argument.toList).getD (placeholder (i + n)) := by
  induction arguments generalizing i n with
  | nil => rfl
  | cons argument rest ih =>
      rw [fill]
      cases n with
      | zero =>
          have own : substitute (placeholder i) argument.toList (placeholder (i + 0)) =
              argument.toList := Text.substitute_self (placeholder_ne_nil i) _
          rw [own]
          rfl
      | succ n =>
          have other : ¬ placeholder i <:+: placeholder (i + (n + 1)) := by
            rw [placeholder_infix_iff]
            omega
          have later : i + (n + 1) = i + 1 + n := by omega
          rw [Text.substitute_of_not_infix other, later, ih]
          rfl

theorem getElem?_inTurn (arguments : List String) (i : Nat) :
    (inTurn arguments)[i]? = arguments[i]?.map fun argument =>
      String.ofList (fill (i + 1) (arguments.drop (i + 1)) argument.toList) :=
  List.getElem?_mapIdx

theorem fill_zero_placeholder (arguments : List String) (i : Nat) :
    fill 0 arguments (placeholder i) = put (inTurn arguments) i := by
  have place := fill_placeholder 0 i arguments
  rw [Nat.zero_add] at place
  rw [place, put, getElem?_inTurn]
  cases arguments[i]? with
  | none => rfl
  | some argument => exact String.toList_ofList.symm

/-! ## What is done to a text place by place -/

/-- A way to change texts that leaves neutral characters, and does to a text what it does to
the parts on their two sides. -/
structure KeepsApart (change : List Char → List Char) : Prop where
  nil : change [] = []
  append_cons : ∀ c, IsNeutral c → ∀ before after,
    change (before ++ c :: after) = change before ++ c :: change after

theorem keepsApart_substituteAll {rules : List Rule}
    (places : ∀ rule ∈ rules, ∃ i, rule.old = placeholder i) :
    KeepsApart (substituteAll rules) where
  nil := Text.substituteAll_nil _
  append_cons c neutral := by
    refine Text.substituteAll_append_cons fun rule member => ?_
    obtain ⟨i, place⟩ := places rule member
    rw [place]
    exact neutral i

theorem keepsApart_fill (i : Nat) (arguments : List String) : KeepsApart (fill i arguments) := by
  induction arguments generalizing i with
  | nil => exact ⟨rfl, fun _ _ _ _ => rfl⟩
  | cons argument rest ih =>
      have first : KeepsApart (substituteAll [⟨placeholder i, argument.toList⟩]) :=
        keepsApart_substituteAll fun rule member => ⟨i, by rw [List.mem_singleton.1 member]⟩
      refine ⟨?_, fun c neutral before after => ?_⟩
      · rw [fill, Text.substitute_eq, first.nil, (ih (i + 1)).nil]
      · rw [fill, fill, fill, Text.substitute_eq, Text.substitute_eq, Text.substitute_eq,
          first.append_cons c neutral, (ih (i + 1)).append_cons c neutral]

namespace KeepsApart

variable {change : List Char → List Char} {c : Char}

theorem append_left (keeps : KeepsApart change) {before : List Char}
    (neutral : ∀ c ∈ before, IsNeutral c) (after : List Char) :
    change (before ++ after) = before ++ change after := by
  induction before with
  | nil => rfl
  | cons c cs ih =>
      obtain ⟨first, others⟩ := List.forall_mem_cons.1 neutral
      have front := keeps.append_cons c first [] (cs ++ after)
      rw [keeps.nil, ih others] at front
      exact front

theorem append_middle (keeps : KeepsApart change) {middle : List Char} (some : middle ≠ [])
    (neutral : ∀ c ∈ middle, IsNeutral c) (before after : List Char) :
    change (before ++ (middle ++ after)) = change before ++ (middle ++ change after) := by
  obtain ⟨c, cs, rfl⟩ := List.exists_cons_of_ne_nil some
  obtain ⟨first, others⟩ := List.forall_mem_cons.1 neutral
  rw [List.cons_append, keeps.append_cons c first, keeps.append_left others, List.cons_append]

theorem append_last (keeps : KeepsApart change) {last : List Char} (some : last ≠ [])
    (neutral : ∀ c ∈ last, IsNeutral c) (before : List Char) :
    change (before ++ last) = change before ++ last := by
  have whole := keeps.append_middle some neutral before []
  rwa [keeps.nil, List.append_nil] at whole

/-- No change takes just an end away that begins with a neutral character: the same would be
taken from what is left, and so on. -/
theorem append_cons_ne (keeps : KeepsApart change) (neutral : IsNeutral c)
    (text after : List Char) : change text ++ c :: after ≠ text := by
  intro same
  have shorter : (change text).length < text.length := by
    have lengths := congrArg List.length same
    rw [List.length_append, List.length_cons] at lengths
    omega
  have again := congrArg change same
  rw [keeps.append_cons c neutral] at again
  exact keeps.append_cons_ne neutral (change text) (change after) again
termination_by text.length
decreasing_by exact shorter

theorem ne_append_cons (keeps : KeepsApart change) (neutral : IsNeutral c)
    (text before : List Char) : before ++ c :: change text ≠ text := by
  intro same
  have shorter : (change text).length < text.length := by
    have lengths := congrArg List.length same
    rw [List.length_append, List.length_cons] at lengths
    omega
  have again := congrArg change same
  rw [keeps.append_cons c neutral] at again
  exact keeps.ne_append_cons neutral (change text) (change before) again
termination_by text.length
decreasing_by exact shorter

end KeepsApart

/-- What is put in front of a text can be moved behind it only if it ends as the text does. -/
theorem exists_concat {front middle behind : List Char} (some : middle ≠ []) (moving : front ≠ [])
    (same : front ++ middle = middle ++ behind) : ∃ cs, ∃ c ∈ middle, behind = cs ++ [c] := by
  have lengths := congrArg List.length same
  rw [List.length_append, List.length_append] at lengths
  have moved : behind ≠ [] := by
    rintro rfl
    rw [List.length_nil] at lengths
    exact moving (List.eq_nil_of_length_eq_zero (by omega))
  obtain ⟨ds, d, rfl⟩ := (List.eq_nil_or_concat middle).resolve_left some
  obtain ⟨cs, c, rfl⟩ := (List.eq_nil_or_concat behind).resolve_left moved
  rw [List.concat_eq_append, List.concat_eq_append, ← List.append_assoc,
    ← List.append_assoc] at same
  have last : d = c := List.singleton_inj.1 (List.append_inj' same rfl).2
  refine ⟨cs, c, ?_, List.concat_eq_append⟩
  rw [← last, List.concat_eq_append]
  exact List.mem_append_right ds (List.mem_singleton_self d)

/-- Two changed texts around a neutral one are as they were together only if each is. -/
theorem eq_of_around {left right : List Char → List Char} (keepsLeft : KeepsApart left)
    (keepsRight : KeepsApart right) {a b middle : List Char} (some : middle ≠ [])
    (neutral : ∀ c ∈ middle, IsNeutral c)
    (same : left a ++ (middle ++ right b) = a ++ (middle ++ b)) : left a = a ∧ right b = b := by
  rcases List.append_eq_append_iff.1 same with ⟨lost, whole, rest⟩ | ⟨gained, whole, rest⟩
  · cases lost with
    | nil =>
        rw [List.append_nil] at whole
        exact ⟨whole.symm, List.append_cancel_left rest⟩
    | cons c cs =>
        obtain ⟨d, ds, rfl⟩ := List.exists_cons_of_ne_nil some
        obtain rfl : d = c := (List.cons.inj rest).1
        exact absurd whole.symm (keepsLeft.append_cons_ne (neutral d (.head ds)) a cs)
  · by_cases nothing : gained = []
    · rw [nothing] at whole rest
      rw [List.append_nil] at whole
      exact ⟨whole, (List.append_cancel_left rest).symm⟩
    · rw [← List.append_assoc] at rest
      rcases List.append_eq_append_iff.1 rest with ⟨moved, front, back⟩ | ⟨moved, front, -⟩
      · obtain ⟨cs, c, member, rfl⟩ := exists_concat some nothing front
        rw [List.append_assoc] at back
        exact absurd back.symm (keepsRight.ne_append_cons (neutral c member) b cs)
      · have lengths := congrArg List.length front
        rw [List.length_append, List.length_append] at lengths
        exact absurd (List.eq_nil_of_length_eq_zero (l := gained) (by omega)) nothing

/-! ## Templates -/

/-- What stands around the places of a template, of which there are one or two. -/
inductive Frame where
  | one (start last : List Char)
  | two (start middle last : List Char)

namespace Frame

/-- The frame with texts in its places. -/
def around (put : Nat → List Char) : Frame → List Char
  | one start last => start ++ (put 0 ++ last)
  | two start middle last => start ++ (put 0 ++ (middle ++ (put 1 ++ last)))

def places : Frame → List Nat
  | one _ _ => [0]
  | two _ _ _ => [0, 1]

/-- No place is made of characters of the frame, and something stands behind each place. -/
inductive IsNeutral : Frame → Prop
  | one {start last : List Char} (neutral : ∀ c ∈ start ++ last, DiagnosticKind.IsNeutral c)
      (closed : last ≠ []) : IsNeutral (.one start last)
  | two {start middle last : List Char}
      (neutral : ∀ c ∈ start ++ middle ++ last, DiagnosticKind.IsNeutral c)
      (separated : middle ≠ []) (closed : last ≠ []) : IsNeutral (.two start middle last)

end Frame

def frame : DiagnosticKind → Frame
  | incompatibleTypes => .two "incompatible types: `".toList "` and `".toList "`".toList
  | operatorNotForType => .two "operator `".toList "` is not defined for `".toList "`".toList
  | logicalNotBool => .one "operator `".toList "` requires `bool` operands".toList
  | divideByZero => .one "division by zero in `".toList "`".toList
  | bitshiftMustUnsigned => .one "shift amount `".toList "` must be unsigned".toList

theorem template_toList (k : DiagnosticKind) :
    k.template.toList = k.frame.around placeholder := by
  cases k <;> decide +kernel

theorem isNeutral_frame (k : DiagnosticKind) : k.frame.IsNeutral := by
  have neutral : ∀ text : List Char,
      (text.all fun c => c != '\x7b' && c != '\x7d' && !c.isDigit) = true →
        ∀ c ∈ text, IsNeutral c := by
    intro text plain c member
    have told := List.all_eq_true.1 plain c member
    simp only [Bool.and_eq_true, bne_iff_ne, Bool.not_eq_true'] at told
    obtain ⟨⟨opening, closing⟩, digit⟩ := told
    exact isNeutral_of_ne opening closing digit
  cases k with
  | incompatibleTypes | operatorNotForType =>
      exact .two (neutral _ (by decide)) (by decide) (by decide)
  | logicalNotBool | divideByZero | bitshiftMustUnsigned =>
      exact .one (neutral _ (by decide)) (by decide)

theorem places_eq (k : DiagnosticKind) : k.places = k.frame.places := by
  cases k <;> rfl

namespace Frame

variable {f : Frame}

theorem around_congr {put other : Nat → List Char} (same : ∀ i ∈ f.places, put i = other i) :
    f.around put = f.around other := by
  cases f with
  | one start last => rw [around, around, same 0 (.head _)]
  | two start middle last => rw [around, around, same 0 (.head _), same 1 (.tail 0 (.head _))]

/-- A frame with its places is changed in its places only. -/
theorem IsNeutral.change_around (neutral : f.IsNeutral) {change : List Char → List Char}
    (keeps : KeepsApart change) (put : Nat → List Char) :
    change (f.around put) = f.around fun i => change (put i) := by
  cases neutral with
  | one neutral closed =>
      obtain ⟨start, last⟩ := List.forall_mem_append.1 neutral
      rw [around, around, keeps.append_left start, keeps.append_last closed last]
  | two neutral separated closed =>
      obtain ⟨front, last⟩ := List.forall_mem_append.1 neutral
      obtain ⟨start, middle⟩ := List.forall_mem_append.1 front
      rw [around, around, keeps.append_left start, keeps.append_middle separated middle,
        keeps.append_last closed last]

/-- Changes in the places leave the whole as it was only if they leave each place. -/
theorem IsNeutral.around_eq_iff (neutral : f.IsNeutral) {change : Nat → List Char → List Char}
    (keeps : ∀ i, KeepsApart (change i)) (put : Nat → List Char) :
    (f.around fun i => change i (put i)) = f.around put ↔
      ∀ i ∈ f.places, change i (put i) = put i := by
  refine ⟨fun same => ?_, around_congr⟩
  cases neutral with
  | one neutral closed =>
      have first := List.append_cancel_right (List.append_cancel_left same)
      simpa [places] using first
  | two neutral separated closed =>
      obtain ⟨front, -⟩ := List.forall_mem_append.1 neutral
      obtain ⟨-, middle⟩ := List.forall_mem_append.1 front
      have inner := List.append_cancel_left same
      rw [← List.append_assoc, ← List.append_assoc, ← List.append_assoc, ← List.append_assoc]
        at inner
      have both := List.append_cancel_right inner
      rw [List.append_assoc, List.append_assoc] at both
      have each := eq_of_around (keeps 0) (keeps 1) separated middle both
      simpa [places] using each

end Frame

/-! ## Messages -/

theorem filled_eq (k : DiagnosticKind) (arguments : List String) :
    k.filled arguments = String.ofList (k.frame.around (put arguments)) := by
  have keeps : KeepsApart (substituteAll (rules arguments)) := by
    refine keepsApart_substituteAll fun rule member => ?_
    obtain ⟨i, few, rfl⟩ := List.mem_mapIdx.1 member
    exact ⟨i, rfl⟩
  rw [filled, template_toList, k.isNeutral_frame.change_around keeps,
    funext (substituteAll_placeholder arguments)]

theorem message_eq (k : DiagnosticKind) {arguments : List String} (given : arguments ≠ []) :
    k.message arguments = String.ofList (k.frame.around (put (inTurn arguments))) := by
  have some : arguments.isEmpty = false := by simpa using given
  rw [message, some, if_neg Bool.false_ne_true, template_toList,
    k.isNeutral_frame.change_around (keepsApart_fill 0 arguments),
    funext (fill_zero_placeholder arguments)]

theorem put_inTurn (arguments : List String) (i : Nat) :
    put (inTurn arguments) i = fill (i + 1) (arguments.drop (i + 1)) (put arguments i) := by
  have turned := getElem?_inTurn arguments i
  cases given : arguments[i]? with
  | none =>
      rw [given] at turned
      have few := List.getElem?_eq_none_iff.1 given
      rw [put_of_getElem?_eq_none given, put_of_getElem?_eq_none turned,
        List.drop_eq_nil_of_le (Nat.le_succ_of_le few), fill]
  | some argument =>
      rw [given] at turned
      rw [put_of_getElem? given, put_of_getElem? turned, String.toList_ofList]

theorem put_inTurn_eq_iff (arguments : List String) (i : Nat) :
    put (inTurn arguments) i = put arguments i ↔ (inTurn arguments)[i]? = arguments[i]? := by
  have turned := getElem?_inTurn arguments i
  cases given : arguments[i]? with
  | none =>
      rw [given] at turned
      rw [put_of_getElem?_eq_none given, put_of_getElem?_eq_none turned, turned]
      exact ⟨fun _ => rfl, fun _ => rfl⟩
  | some argument =>
      rw [given] at turned
      rw [put_of_getElem? given, put_of_getElem? turned, turned, Option.map_some,
        Option.some_inj, String.toList_inj]

theorem fill_of_not_infix {i : Nat} {arguments : List String} {text : List Char}
    (missing : ∀ j < arguments.length, ¬ placeholder (i + j) <:+: text) :
    fill i arguments text = text := by
  induction arguments generalizing i with
  | nil => rfl
  | cons argument rest ih =>
      have first : ¬ placeholder i <:+: text := missing 0 (Nat.zero_lt_succ _)
      rw [fill, Text.substitute_of_not_infix first]
      refine ih fun j few => ?_
      have later := missing (j + 1) (Nat.succ_lt_succ few)
      rwa [Nat.add_comm j 1, ← Nat.add_assoc] at later

/-- Arguments that hold no place of a later one stay as they are. -/
theorem inTurn_of_not_infix {arguments : List String}
    (missing : ∀ j < arguments.length, ∀ argument ∈ arguments.take j,
      ¬ placeholder j <:+: argument.toList) : inTurn arguments = arguments := by
  refine List.ext_getElem? fun i => ?_
  rw [getElem?_inTurn]
  cases given : arguments[i]? with
  | none => rfl
  | some argument =>
      have kept : fill (i + 1) (arguments.drop (i + 1)) argument.toList = argument.toList := by
        refine fill_of_not_infix fun j few => missing (i + 1 + j) ?_ argument ?_
        · rw [List.length_drop] at few
          omega
        · refine List.mem_of_getElem? (i := i) ?_
          rw [List.getElem?_take_of_lt (by omega), given]
      rw [Option.map_some, kept, String.ofList_toList]

/-- **Places are filled one after the other.**  Whatever the arguments are, a message that has
any is the template with all places filled at once, but with arguments into which those that
follow have been filled.  It is the template filled with the arguments themselves exactly if
filling leaves those that the template has a place for, and so if no argument holds the
place of a later one. -/
theorem message_inTurn (k : DiagnosticKind) {arguments : List String} (given : arguments ≠ []) :
    k.message arguments = k.filled (inTurn arguments) ∧
      (k.message arguments = k.filled arguments ↔
        ∀ i ∈ k.places, (inTurn arguments)[i]? = arguments[i]?) ∧
      ((∀ j < arguments.length, ∀ argument ∈ arguments.take j,
          ¬ placeholder j <:+: argument.toList) →
        k.message arguments = k.filled arguments) := by
  have turned : k.message arguments = k.filled (inTurn arguments) := by
    rw [message_eq k given, filled_eq]
  refine ⟨turned, ?_, fun missing => ?_⟩
  · have exactly := k.isNeutral_frame.around_eq_iff
      (fun i => keepsApart_fill (i + 1) (arguments.drop (i + 1))) (put arguments)
    simp only [← put_inTurn, put_inTurn_eq_iff] at exactly
    rw [message_eq k given, filled_eq, String.ofList_inj, places_eq]
    exact exactly
  · rw [turned, inTurn_of_not_infix missing]

/-- A type that is named like an earlier place is shown by its name. -/
theorem message_inTurn_earlier_place :
    ["*i32", "\x7b0\x7d"] ≠ [] ∧
      incompatibleTypes.message ["*i32", "\x7b0\x7d"] =
        incompatibleTypes.filled ["*i32", "\x7b0\x7d"] ∧
      incompatibleTypes.filled ["*i32", "\x7b0\x7d"] =
        "incompatible types: `*i32` and `\x7b0\x7d`" := by
  have given : ["*i32", "\x7b0\x7d"] ≠ [] := by decide
  refine ⟨given, (message_inTurn incompatibleTypes given).2.2 (by decide), ?_⟩
  rw [filled_eq]
  decide

/-- One that is named like a later place is not: the place is filled once more. -/
theorem message_place_in_argument :
    incompatibleTypes.message ["\x7b1\x7d", "i32"] = "incompatible types: `i32` and `i32`" ∧
      incompatibleTypes.filled ["\x7b1\x7d", "i32"] =
        "incompatible types: `\x7b1\x7d` and `i32`" := by
  have turned : inTurn ["\x7b1\x7d", "i32"] = ["i32", "i32"] := by decide +kernel
  refine ⟨?_, ?_⟩
  · rw [message_eq _ (by decide), turned]
    decide
  · rw [filled_eq]
    decide

end BinarySolver.DiagnosticKind
