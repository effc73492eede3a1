/-
# BinarySolver.Proofs.FirstIdentifier -- a text cut around its first identifier

A cut loses nothing, and both of its ends lie as far back as they can: no identifier starts
in the markers, and the identifier goes on as long as its parts do (`IsCut`).  Every text
has one cut of this kind and no other, and what is put in front of a text joins its markers
if no identifier starts in it: **`split_maximal`**.
-/
import Mathlib.Data.List.TakeWhile
import BinarySolver.Proofs.PlainSpelling

namespace BinarySolver.Identifier

set_option autoImplicit false

/-- The parts are those of a text around its first identifier.  A text without one is all
markers. -/
structure IsCut (text : String) (s : Split) : Prop where
  whole : s.markers ++ s.ident ++ s.rest = text
  bare : IsMarker s.markers
  nameless : s.ident = "" ↔ IsMarker text
  alone : s.ident = "" → s.rest = ""
  identifier : s.ident ≠ "" → IsName s.ident
  ends : s.ident ≠ "" → ∀ c ∈ s.rest.toList.head?, isPart c = false

variable {text marker name rest : String} {s : Split}

/-! ## Texts with an identifier and without -/

theorem IsName.ne_empty (identifier : IsName name) : name ≠ "" := by
  obtain ⟨c, cs, front, -, -⟩ := identifier
  rintro rfl
  cases front

theorem IsName.not_isMarker (identifier : IsName name) (marker rest : String) :
    ¬ IsMarker (marker ++ name ++ rest) := by
  obtain ⟨c, cs, front, start, -⟩ := identifier
  intro bare
  have member : c ∈ (marker ++ name ++ rest).toList := by simp [front]
  rw [bare c member] at start
  cases start

theorem isCut_of_isMarker (bare : IsMarker text) : IsCut text ⟨text, "", ""⟩ where
  whole := by rw [String.append_empty, String.append_empty]
  bare := bare
  nameless := ⟨fun _ => bare, fun _ => rfl⟩
  alone := fun _ => rfl
  identifier := fun some => absurd rfl some
  ends := fun some => absurd rfl some

theorem isCut_of_isName (bare : IsMarker marker) (identifier : IsName name)
    (ends : ∀ c ∈ rest.toList.head?, isPart c = false) :
    IsCut (marker ++ name ++ rest) ⟨marker, name, rest⟩ where
  whole := rfl
  bare := bare
  nameless := ⟨fun none => absurd none identifier.ne_empty,
    fun none => absurd none (identifier.not_isMarker marker rest)⟩
  alone := fun none => absurd none identifier.ne_empty
  identifier := fun _ => identifier
  ends := fun _ => ends

/-- What begins with the start of an identifier begins with a whole one. -/
theorem exists_isName {c : Char} (start : isStart c = true) (cs : List Char) :
    ∃ name rest, String.ofList (c :: cs) = name ++ rest ∧ IsName name ∧
      ∀ d ∈ rest.toList.head?, isPart d = false := by
  refine ⟨.ofList (c :: cs.takeWhile isPart), .ofList (cs.dropWhile isPart), ?_, ?_, ?_⟩
  · rw [← String.ofList_append, List.cons_append, List.takeWhile_append_dropWhile]
  · refine ⟨c, cs.takeWhile isPart, String.toList_ofList, start, ?_⟩
    intro d member
    exact List.mem_takeWhile_imp member
  · intro d first
    rw [String.toList_ofList] at first
    have stopped := List.head?_dropWhile_not isPart cs
    rw [Option.mem_def.1 first] at stopped
    simpa using stopped

theorem exists_isCut (text : String) : ∃ s, IsCut text s := by
  have parts : text = .ofList (text.toList.takeWhile fun c => !isStart c) ++
      .ofList (text.toList.dropWhile fun c => !isStart c) := by
    rw [← String.ofList_append, List.takeWhile_append_dropWhile, String.ofList_toList]
  have bare : IsMarker (.ofList (text.toList.takeWhile fun c => !isStart c)) := by
    intro c member
    rw [String.toList_ofList] at member
    simpa using List.mem_takeWhile_imp member
  cases tail : text.toList.dropWhile fun c => !isStart c with
  | nil =>
      rw [tail, String.ofList_nil, String.append_empty] at parts
      rw [parts]
      exact ⟨_, isCut_of_isMarker bare⟩
  | cons c cs =>
      have stopped := List.head?_dropWhile_not (fun c => !isStart c) text.toList
      rw [tail] at stopped
      have start : isStart c = true := by simpa using stopped
      obtain ⟨name, rest, behind, identifier, ends⟩ := exists_isName start cs
      rw [tail, behind, ← String.append_assoc] at parts
      rw [parts]
      exact ⟨_, isCut_of_isName bare identifier ends⟩

/-! ## The one cut of a text -/

/-- Parts of this kind are those that the text is cut into. -/
theorem IsCut.split_eq (cut : IsCut text s) : split text = s := by
  obtain ⟨marker, name, rest⟩ := s
  obtain ⟨whole, bare, -, alone, identifier, ends⟩ := cut
  dsimp only at whole bare alone identifier ends
  by_cases none : name = ""
  · have same : text = marker ++ "" := by
      rw [← whole, alone none, none, String.append_empty (s := marker ++ "")]
    have nothing : split "" = ⟨"", "", ""⟩ := rfl
    rw [same, split_append_of_isMarker bare, alone none, none, nothing, String.append_empty]
  · rw [← whole, String.append_assoc, split_append_of_isMarker bare,
      split_append_of_isName (identifier none) (ends none), String.append_empty]

/-- **The cut around the first identifier.**  The three parts are the text, no identifier
starts in the markers, and there is an identifier exactly if one starts in the text; it
begins with a start, holds parts only, and goes on as far as parts do.  No other three parts
are like that.  A text in front in which no identifier starts makes the markers longer and
leaves the other parts. -/
theorem split_maximal (text : String) :
    (∀ s, split text = s ↔ IsCut text s) ∧
      ∀ marker, IsMarker marker →
        split (marker ++ text) =
          ⟨marker ++ (split text).markers, (split text).ident, (split text).rest⟩ := by
  refine ⟨fun s => ⟨?_, IsCut.split_eq⟩, fun marker bare => split_append_of_isMarker bare text⟩
  rintro rfl
  obtain ⟨s, cut⟩ := exists_isCut text
  rw [cut.split_eq]
  exact cut

/-- A raised two starts no identifier, digits of every script go on with one, and an accent
of its own ends it. -/
theorem split_maximal_mixed :
    IsMarker "*²" ∧ split ("*²" ++ "[]naïve٣\u0301x") = ⟨"*²[]", "naïve٣", "\u0301x"⟩ := by
  have bare : IsMarker "*²" := by decide +kernel
  have brackets : IsMarker "[]" := by decide
  have identifier : IsName "naïve٣" := by decide +kernel
  have ends : ∀ c ∈ "\u0301x".toList.head?, isPart c = false := by
    intro c first
    obtain rfl : '\u0301' = c := Option.some_inj.1 first
    decide +kernel
  have cut : split "[]naïve٣\u0301x" = ⟨"[]", "naïve٣", "\u0301x"⟩ :=
    ((split_maximal "[]naïve٣\u0301x").1 _).2 (isCut_of_isName brackets identifier ends)
  refine ⟨bare, ((split_maximal _).2 "*²" bare).trans ?_⟩
  rw [cut]
  rfl

end BinarySolver.Identifier
