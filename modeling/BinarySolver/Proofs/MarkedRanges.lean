/-
# BinarySolver.Proofs.MarkedRanges -- the octets that are marked in a source

A range is cut off at the end of its source and, if it is empty, made one octet longer.  It
ends between two characters then, but for one case: an empty range in front of a character
of several octets comes to end within it (`isValid_clampRange_iff`).  A diagnostic with such
a place cannot be drawn: **`clampRange_slices`**.  What the command line reports can
(`renderAll?_of_solve`), since its places are those of texts that were given.
-/
import BinarySolver.Diagnostic.Snippet
import BinarySolver.Proofs.RequestPlaces

namespace BinarySolver

set_option autoImplicit false

open String.Pos.Raw (IsValid)

namespace Span

/-- The ends of the span are in order, and each lies between two characters of the content
or not before its end. -/
structure Between (span : Span) (content : String) : Prop where
  ordered : span.start ≤ span.stop
  start : content.utf8ByteSize ≤ span.start ∨ IsValid content ⟨span.start⟩
  stop : content.utf8ByteSize ≤ span.stop ∨ IsValid content ⟨span.stop⟩

/-- The span is empty, and this is the next character of the content. -/
structure StandsBefore (span : Span) (content : String) (c : Char) : Prop where
  empty : span.start = span.stop
  next : ∃ before after, content = before ++ String.singleton c ++ after ∧
    span.start = before.utf8ByteSize

end Span

namespace Snippet

variable {content : String} {span : Span} {p : Nat}

/-! ## Places between characters -/

theorem isValid_iff_exists :
    IsValid content ⟨p⟩ ↔ ∃ before after, content = before ++ after ∧ before.utf8ByteSize = p := by
  rw [String.Pos.Raw.isValid_iff_exists_append]
  simp only [String.Pos.Raw.ext_iff, String.byteIdx_rawEndPos, eq_comm]

theorem isValid_utf8ByteSize (content : String) : IsValid content ⟨content.utf8ByteSize⟩ :=
  isValid_iff_exists.2 ⟨content, "", String.append_empty.symm, rfl⟩

theorem le_of_isValid (valid : IsValid content ⟨p⟩) : p ≤ content.utf8ByteSize := by
  obtain ⟨before, after, rfl, rfl⟩ := isValid_iff_exists.1 valid
  rw [String.utf8ByteSize_append]
  exact Nat.le_add_right _ _

/-- A place that is cut off at the end stays between characters. -/
theorem isValid_min (place : content.utf8ByteSize ≤ p ∨ IsValid content ⟨p⟩) :
    IsValid content ⟨min p content.utf8ByteSize⟩ := by
  rcases place with behind | valid
  · rw [Nat.min_eq_right behind]
    exact isValid_utf8ByteSize content
  · rwa [Nat.min_eq_left (le_of_isValid valid)]

/-- Behind a place in front of the end there is a character. -/
theorem exists_next (valid : IsValid content ⟨p⟩) (inside : p < content.utf8ByteSize) :
    ∃ before c after, content = before ++ String.singleton c ++ after ∧
      before.utf8ByteSize = p := by
  obtain ⟨before, rest, rfl, rfl⟩ := isValid_iff_exists.1 valid
  cases front : rest.toList with
  | nil =>
      rw [String.toList_eq_nil_iff.1 front, String.append_empty] at inside
      exact absurd inside (Nat.lt_irrefl _)
  | cons c cs =>
      have behind : rest = String.singleton c ++ String.ofList cs := by
        rw [← String.ofList_cons, ← front, String.ofList_toList]
      exact ⟨before, c, .ofList cs, by rw [behind, String.append_assoc], rfl⟩

/-- Of two beginnings of a text the one with more octets goes on behind the other. -/
theorem exists_append_of_lt {left right front back : String}
    (same : left ++ right = front ++ back) (longer : front.utf8ByteSize < left.utf8ByteSize) :
    ∃ c rest, left = front ++ String.singleton c ++ rest ∧
      back = String.singleton c ++ rest ++ right := by
  have lists := congrArg String.toList same
  rw [String.toList_append, String.toList_append] at lists
  rcases List.append_eq_append_iff.1 lists with ⟨more, whole, -⟩ | ⟨more, whole, behind⟩
  · have parts : front = left ++ String.ofList more := by
      rw [← String.toList_inj, String.toList_append, String.toList_ofList, whole]
    rw [parts, String.utf8ByteSize_append] at longer
    omega
  · have parts : left = front ++ String.ofList more := by
      rw [← String.toList_inj, String.toList_append, String.toList_ofList, whole]
    cases more with
    | nil =>
        rw [parts, String.ofList_nil, String.append_empty] at longer
        exact absurd longer (Nat.lt_irrefl _)
    | cons c cs =>
        refine ⟨c, .ofList cs, ?_, ?_⟩
        · rw [parts, String.ofList_cons, String.append_assoc]
        · rw [← String.toList_inj, behind]
          simp

/-- The octet behind the first one of a character is its end only if it has no other. -/
theorem isValid_succ_iff {c : Char} {before after : String}
    (parts : content = before ++ String.singleton c ++ after) :
    IsValid content ⟨before.utf8ByteSize + 1⟩ ↔ c.utf8Size = 1 := by
  rw [isValid_iff_exists]
  constructor
  · rintro ⟨left, right, cut, size⟩
    rw [parts, String.append_assoc] at cut
    obtain ⟨d, rest, whole, behind⟩ := exists_append_of_lt cut.symm (by omega)
    obtain rfl : c = d := by
      rw [String.append_assoc] at behind
      exact (String.singleton_append_inj.1 behind).1
    rw [whole, String.utf8ByteSize_append, String.utf8ByteSize_append,
      String.utf8ByteSize_singleton] at size
    have some := c.utf8Size_pos
    omega
  · intro one
    refine ⟨before ++ String.singleton c, after, parts, ?_⟩
    rw [String.utf8ByteSize_append, String.utf8ByteSize_singleton, one]

/-! ## Ranges that are cut off and made longer -/

theorem clampRange_of_eq {limit : Nat} (same : min span.start limit = min span.stop limit) :
    clampRange span limit = (min span.start limit, min (min span.start limit + 1) limit) := by
  rw [clampRange, if_pos same]

theorem clampRange_of_ne {limit : Nat} (apart : min span.start limit ≠ min span.stop limit) :
    clampRange span limit = (min span.start limit, min span.stop limit) := by
  rw [clampRange, if_neg apart]

theorem clampRange_fst (span : Span) (limit : Nat) :
    (clampRange span limit).1 = min span.start limit := by
  by_cases same : min span.start limit = min span.stop limit
  · rw [clampRange_of_eq same]
  · rw [clampRange_of_ne same]

theorem clampRange_bounds (ordered : span.start ≤ span.stop) (limit : Nat) :
    (clampRange span limit).1 ≤ (clampRange span limit).2 ∧
      (clampRange span limit).2 ≤ limit ∧
      (span.start < limit → (clampRange span limit).1 < (clampRange span limit).2) := by
  by_cases same : min span.start limit = min span.stop limit
  · rw [clampRange_of_eq same]
    refine ⟨?_, ?_, fun inside => ?_⟩ <;> dsimp only <;> omega
  · rw [clampRange_of_ne same]
    refine ⟨?_, ?_, fun inside => ?_⟩ <;> dsimp only <;> omega

/-- A range with something in it that lies within the source stays as it is. -/
theorem clampRange_of_lt {limit : Nat} (some : span.start < span.stop)
    (inside : span.stop ≤ limit) : clampRange span limit = (span.start, span.stop) := by
  have start : min span.start limit = span.start := by omega
  have stop : min span.stop limit = span.stop := Nat.min_eq_left inside
  have apart : min span.start limit ≠ min span.stop limit := by omega
  rw [clampRange_of_ne apart, start, stop]

/-- A range ends between characters, unless it was empty and stood before a character of
several octets. -/
theorem isValid_clampRange_iff (between : span.Between content) :
    IsValid content ⟨(clampRange span content.utf8ByteSize).2⟩ ↔
      ∀ c, span.StandsBefore content c → c.utf8Size = 1 := by
  by_cases same : min span.start content.utf8ByteSize = min span.stop content.utf8ByteSize
  · rw [clampRange_of_eq same]
    rcases Nat.lt_or_ge span.start content.utf8ByteSize with inside | behind
    · rw [Nat.min_eq_left (Nat.le_of_lt inside), Nat.min_eq_left (Nat.succ_le_of_lt inside)]
      constructor
      · rintro valid c ⟨-, before, after, parts, place⟩
        rw [place] at valid
        exact (isValid_succ_iff parts).1 valid
      · intro short
        have empty : span.start = span.stop := by omega
        have start := between.start.resolve_left (Nat.not_le_of_lt inside)
        obtain ⟨before, c, after, parts, place⟩ := exists_next start inside
        rw [← place]
        exact (isValid_succ_iff parts).2 (short c ⟨empty, before, after, parts, place.symm⟩)
    · rw [Nat.min_eq_right behind, Nat.min_eq_right (Nat.le_succ _)]
      refine ⟨fun _ c stands => ?_, fun _ => isValid_utf8ByteSize content⟩
      obtain ⟨-, before, after, rfl, place⟩ := stands
      have some := c.utf8Size_pos
      rw [String.utf8ByteSize_append, String.utf8ByteSize_append,
        String.utf8ByteSize_singleton] at behind
      omega
  · rw [clampRange_of_ne same]
    refine ⟨fun _ c stands => ?_, fun _ => isValid_min between.stop⟩
    exact absurd (by rw [stands.empty]) same

/-- What becomes of a place when it is marked in a content. -/
structure Marks (span : Span) (content : String) (range : Nat × Nat) : Prop where
  ordered : range.1 ≤ range.2
  inside : range.2 ≤ content.utf8ByteSize
  start : IsValid content ⟨range.1⟩
  stop : IsValid content ⟨range.2⟩ ↔ ∀ c, span.StandsBefore content c → c.utf8Size = 1
  kept : span.start < span.stop → span.stop ≤ content.utf8ByteSize →
    range = (span.start, span.stop)
  seen : span.start < content.utf8ByteSize → range.1 < range.2

theorem marks_clampRange (between : span.Between content) :
    Marks span content (clampRange span content.utf8ByteSize) := by
  obtain ⟨ordered, inside, seen⟩ := clampRange_bounds between.ordered content.utf8ByteSize
  refine ⟨ordered, inside, ?_, isValid_clampRange_iff between, clampRange_of_lt, seen⟩
  rw [clampRange_fst]
  exact isValid_min between.start

/-! ## What can be drawn -/

variable {source : Source} {d : Diagnostic}

theorem isDrawable_iff : isDrawable source d = true ↔
    ∀ span ∈ places source d,
      IsValid source.content ⟨(clampRange span source.content.utf8ByteSize).1⟩ ∧
        IsValid source.content ⟨(clampRange span source.content.utf8ByteSize).2⟩ := by
  simp only [isDrawable, ranges, List.all_map, List.all_eq_true, Function.comp_apply,
    Bool.and_eq_true, decide_eq_true_eq]

/-- **Marked ranges are slices of their source, but for empty places before characters of
several octets.**  Each place that a diagnostic is marked at, wherever its ends lie between
characters of the source or behind them, has a range within the source that begins between
two characters, is the place itself if that has something in it and lies within, and is not
empty if the place begins before the end.  It ends between two characters exactly if the
place is not empty before a character of several octets; and a diagnostic with such places
only can be drawn exactly if this holds of each. -/
theorem clampRange_slices (source : Source) (d : Diagnostic) :
    (∀ span ∈ places source d, span.Between source.content →
      Marks span source.content (clampRange span source.content.utf8ByteSize)) ∧
      ((∀ span ∈ places source d, span.Between source.content) →
        (isDrawable source d = true ↔ ∀ span ∈ places source d,
          ∀ c, span.StandsBefore source.content c → c.utf8Size = 1)) := by
  refine ⟨fun span _ between => marks_clampRange between, fun between => ?_⟩
  have marks := fun span member => marks_clampRange (between span member)
  rw [isDrawable_iff]
  constructor
  · intro slices span member
    exact (marks span member).stop.1 (slices span member).2
  · intro short span member
    exact ⟨(marks span member).start, (marks span member).stop.2 (short span member)⟩

/-- A place that reaches over the end is cut off there; an empty one before an ideograph does
no harm if it lies in another source. -/
theorem clampRange_slices_over_end :
    let source : Source := ⟨0, .oneLiner, "a中"⟩
    let d := Diagnostic.report .divideByZero ⟨some 0, 1, 9⟩ ["/"]
      [⟨⟨some 0, 0, 0⟩, "left"⟩, ⟨⟨some 1, 1, 1⟩, "elsewhere"⟩]
    (∀ span ∈ places source d, span.Between source.content) ∧
      Marks ⟨some 0, 1, 9⟩ source.content (1, 4) ∧
      (∀ span ∈ places source d, ∀ c, span.StandsBefore source.content c → c.utf8Size = 1) := by
  intro source d
  have all : places source d = [⟨some 0, 1, 9⟩, ⟨some 0, 0, 0⟩] := by decide
  have between : ∀ span ∈ places source d, span.Between source.content := by
    rw [all]
    refine List.forall_mem_cons.2 ⟨⟨by decide, .inr (by decide), .inl (by decide)⟩, ?_⟩
    exact List.forall_mem_singleton.2 ⟨by decide, .inr (by decide), .inr (by decide)⟩
  obtain ⟨marks, drawable⟩ := clampRange_slices source d
  have first : ⟨some 0, 1, 9⟩ ∈ places source d := by rw [all]; exact .head _
  exact ⟨between, marks _ first (between _ first), (drawable between).1 (by decide)⟩

/-- An empty place before an ideograph is marked up to the middle of it, and nothing is
shown. -/
theorem clampRange_before_ideograph :
    let place : Span := ⟨some 0, 0, 0⟩
    place.Between "中" ∧ clampRange place "中".utf8ByteSize = (0, 1) ∧ ¬ IsValid "中" ⟨1⟩ ∧
      Diagnostic.renderAll? (SourceMap.oneLiner "中").2 false
        [Diagnostic.report .divideByZero place [] []] = none := by
  refine ⟨⟨by decide, .inr (by decide), .inr (by decide)⟩, by decide, by decide, ?_⟩
  exact if_neg (by decide)

theorem isDrawable_of_cuts
    (cut : ∀ span ∈ places source d, ∃ text, span.Cuts source text ∧ span.start < span.stop) :
    isDrawable source d = true := by
  refine isDrawable_iff.2 fun span member => ?_
  obtain ⟨text, cuts, some⟩ := cut span member
  rw [clampRange_of_lt some (le_of_isValid cuts.stop)]
  exact ⟨cuts.start, cuts.stop⟩

end Snippet

/-! ## What the command line shows -/

theorem Operand.read_nil : read [] = .error .emptyType := by
  have empty : TypeExpr.read [] = .error .emptyType := by
    rw [TypeExpr.read_eq]
    rfl
  show (TypeExpr.read []).map Value.runtime = _
  rw [empty]
  rfl

namespace Command.SolveRequest

variable {r : SolveRequest} {s : Solved} {op : BinaryOp} {left right : Value}

theorem Reads.ne_empty (reads : r.Reads op left right) :
    r.left ≠ "" ∧ r.op ≠ "" ∧ r.right ≠ "" := by
  obtain ⟨operator, first, second⟩ := reads
  refine ⟨?_, ?_, ?_⟩ <;> intro empty
  · rw [empty, String.toList_empty, Operand.read_nil] at first
    cases first
  · rw [empty] at operator
    cases operator
  · rw [empty, String.toList_empty, Operand.read_nil] at second
    cases second

theorem lt_spanOf {text : String} (some : text ≠ "") (id : SourceId) (start : Nat) :
    (spanOf id start text).start < (spanOf id start text).stop :=
  Nat.lt_add_of_pos_right (Nat.pos_of_ne_zero fun none =>
    some (String.utf8ByteSize_eq_zero_iff.1 none))

/-- What is reported of a request that is read can be shown beside it. -/
theorem isShowable_of_reads (reads : r.Reads op left right) {d : Diagnostic}
    (reported : d ∈ (r.solution op left right).2.diagnostics) :
    d.isShowable (SourceMap.oneLiner r.source).2 = true := by
  let source : Source := ⟨0, .oneLiner, r.source⟩
  obtain ⟨span, related⟩ := diagnostics_solution reads reported
  have found : (d.span.source.bind fun id => (SourceMap.oneLiner r.source).2.get? id) =
      some source := by
    rw [span]
    rfl
  have given : ∀ span ∈ Snippet.places source d, span = r.operatorSpan source.id ∨
      span = r.leftSpan source.id ∨ span = r.rightSpan source.id := by
    intro place member
    rcases List.mem_cons.1 member with own | other
    · exact .inl (own.trans span)
    · obtain ⟨entry, kept, rfl⟩ := List.mem_map.1 other
      have listed := (List.mem_filter.1 kept).1
      rw [related] at listed
      split at listed
      · rcases List.mem_cons.1 listed with rfl | last
        · exact .inr (.inl rfl)
        · rw [List.mem_singleton.1 last]
          exact .inr (.inr rfl)
      · cases listed
  obtain ⟨someLeft, someOperator, someRight⟩ := reads.ne_empty
  have stands : r.Places source (r.leftSpan source.id) (r.operatorSpan source.id)
      (r.rightSpan source.id) := places rfl
  rw [Diagnostic.isShowable, found]
  refine Snippet.isDrawable_of_cuts fun place member => ?_
  rcases given place member with rfl | rfl | rfl
  · exact ⟨r.op, stands.cutsOperator, lt_spanOf someOperator _ _⟩
  · exact ⟨r.left, stands.cutsLeft, lt_spanOf someLeft _ _⟩
  · exact ⟨r.right, stands.cutsRight, lt_spanOf someRight _ _⟩

/-- Whatever is solved on the command line can be shown. -/
theorem renderAll?_of_solve (done : r.solve = .ok s) (colour : Bool) :
    Diagnostic.renderAll? s.sources colour s.evaluation.diagnostics =
      some (Diagnostic.renderAll s.sources colour s.evaluation.diagnostics) := by
  obtain ⟨op, left, right, reads⟩ := exists_reads_of_solve done
  obtain ⟨spelling, answered⟩ := reads.solve_eq
  rw [answered] at done
  cases done
  exact if_pos (List.all_eq_true.2 fun d reported => isShowable_of_reads reads reported)

end Command.SolveRequest

end BinarySolver
