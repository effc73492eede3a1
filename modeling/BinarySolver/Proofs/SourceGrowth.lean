/-
# BinarySolver.Proofs.SourceGrowth -- a source map that grows

A call that adds a source puts it behind all others (`growsTo_call`), so a run of calls
leaves what was there in front (`growsTo_calls`) and answers the numbers in order
(`calls_ids`).  A map therefore tells of each source what was given when it was added
(`records_calls`), and whatever looks at known sources only, a spelling
(`GrowsTo.spell_eq`) or a list of diagnostics (`GrowsTo.renderAllWith_eq`), is the same text
after further calls: **`calls_frame`**.
-/
import BinarySolver.Diagnostic.Snippet
import BinarySolver.Proofs.Places
import Mathlib.Algebra.Group.Nat.Defs
import Mathlib.Data.List.Nodup

namespace BinarySolver

set_option autoImplicit false

namespace SourceMap

variable {m n : SourceMap} {id : SourceId}

/-! ## Calls -/

/-- A call that adds a source. -/
inductive Call where
  | addOneLiner (content : String)
  | addFile (path content : String)

namespace Call

def kind : Call → SourceKind
  | addOneLiner _ => .oneLiner
  | addFile path _ => .file path

def content : Call → String
  | addOneLiner content => content
  | addFile _ content => content

def path? : Call → Option String
  | addOneLiner _ => none
  | addFile path _ => some path

theorem path?_kind (c : Call) : c.kind.path? = c.path? := by
  cases c <;> rfl

theorem path?_eq_none_iff (c : Call) : c.path? = none ↔ ∃ content, c = addOneLiner content := by
  cases c with
  | addOneLiner content => exact ⟨fun _ => ⟨content, rfl⟩, fun _ => rfl⟩
  | addFile path content => simp [path?]

end Call

/-- One call: the number of the new source, and the map with it. -/
def call (m : SourceMap) : Call → SourceId × SourceMap
  | .addOneLiner content => m.addOneLiner content
  | .addFile path content => m.addFile path content

/-- One call after the other: the numbers that they answer, and the map at the end. -/
def calls (m : SourceMap) : List Call → List SourceId × SourceMap
  | [] => ([], m)
  | c :: rest =>
    let first := m.call c
    let others := first.2.calls rest
    (first.1 :: others.1, others.2)

theorem call_eq (m : SourceMap) (c : Call) : m.call c = m.add c.kind c.content := by
  cases c <;> rfl

theorem size_call (m : SourceMap) (c : Call) : (m.call c).2.size = m.size + 1 := by
  rw [call_eq, add, size, List.length_append]
  rfl

theorem size_calls (m : SourceMap) (cs : List Call) :
    (m.calls cs).2.size = m.size + cs.length := by
  induction cs generalizing m with
  | nil => rfl
  | cons c rest ih =>
      rw [calls, ih, size_call, List.length_cons]
      omega

/-- The numbers follow on those that are taken. -/
theorem calls_ids (m : SourceMap) (cs : List Call) :
    (m.calls cs).1 = List.range' m.size cs.length := by
  induction cs generalizing m with
  | nil => rfl
  | cons c rest ih =>
      have first : (m.call c).1 = m.size := by
        rw [call_eq]
        rfl
      rw [calls, ih, size_call, first, List.length_cons, List.range'_succ]

/-! ## Growth -/

/-- The sources of the first map are the front of those of the second. -/
def GrowsTo (m n : SourceMap) : Prop := m.entries <+: n.entries

theorem growsTo_call (m : SourceMap) (c : Call) : m.GrowsTo (m.call c).2 := by
  rw [call_eq]
  exact List.prefix_append _ _

theorem growsTo_calls (m : SourceMap) (cs : List Call) : m.GrowsTo (m.calls cs).2 := by
  induction cs generalizing m with
  | nil => exact List.prefix_refl _
  | cons c rest ih => exact (growsTo_call m c).trans (ih _)

namespace GrowsTo

theorem get?_eq (grown : m.GrowsTo n) (known : id < m.size) : n.get? id = m.get? id := by
  obtain ⟨rest, front⟩ := grown
  rw [get?, get?, ← front, List.getElem?_append_left known]

theorem path?_eq (grown : m.GrowsTo n) (known : id < m.size) : n.path? id = m.path? id := by
  rw [path?, path?, grown.get?_eq known]

end GrowsTo

/-! ## What is told of a source -/

/-- All accessors tell of a source what the call that added it was given. -/
structure Records (m : SourceMap) (id : SourceId) (c : Call) : Prop where
  get : m.get? id = some ⟨id, c.kind, c.content⟩
  content : m.content? id = some c.content
  path : m.path? id = c.path?
  pathless : m.path? id = none ↔ ∃ content, c = .addOneLiner content
  listed : m.toList[id]? = some ⟨id, c.kind, c.content⟩

/-- The list has each source at the place that its number tells. -/
theorem getElem?_toList (m : SourceMap) (id : SourceId) : m.toList[id]? = m.get? id := by
  rw [toList, List.getElem?_mapIdx, get?]

theorem records_of_get? {c : Call} (found : m.get? id = some ⟨id, c.kind, c.content⟩) :
    m.Records id c := by
  have path : m.path? id = c.path? := by
    rw [path?, found]
    exact c.path?_kind
  refine ⟨found, ?_, path, ?_, ?_⟩
  · rw [content?, found]
    rfl
  · rw [path, c.path?_eq_none_iff]
  · rw [getElem?_toList, found]

theorem records_call (m : SourceMap) (c : Call) : (m.call c).2.Records m.size c := by
  refine records_of_get? ?_
  rw [call_eq]
  exact get?_add_self m c.kind c.content

theorem Records.of_growsTo {c : Call} (told : m.Records id c) (known : id < m.size)
    (grown : m.GrowsTo n) : n.Records id c :=
  records_of_get? ((grown.get?_eq known).trans told.get)

/-- The call at some place of a run is recorded under the number that follows as many others. -/
theorem records_calls (m : SourceMap) {cs : List Call} {i : Nat} {c : Call}
    (added : cs[i]? = some c) : (m.calls cs).2.Records (m.size + i) c := by
  induction cs generalizing m i with
  | nil => cases added
  | cons first rest ih =>
      cases i with
      | zero =>
          cases added
          have known : m.size < (m.call c).2.size := by
            rw [size_call]
            exact Nat.lt_succ_self _
          exact (records_call m c).of_growsTo known (growsTo_calls _ rest)
      | succ i =>
          have later := ih (m.call first).2 added
          rwa [size_call, Nat.add_assoc, Nat.add_comm 1 i] at later

end SourceMap

/-! ## What is shown of known sources -/

/-- A place in one of the sources, or in none. -/
def Span.IsKnown (ids : List SourceId) (span : Span) : Prop := ∀ id ∈ span.source, id ∈ ids

instance (ids : List SourceId) (span : Span) : Decidable (span.IsKnown ids) :=
  inferInstanceAs (Decidable (∀ id ∈ span.source, id ∈ ids))

namespace Diagnostic

/-- How a diagnostic is shown if `draw` shows one beside its line. -/
def renderWith (draw : Source → Diagnostic → String) (sources : SourceMap) (d : Diagnostic) :
    String :=
  match d.span.source.bind fun id => sources.get? id with
  | some source => draw source d
  | none => d.toText

def renderAllWith (draw : Source → Diagnostic → String) (sources : SourceMap)
    (ds : List Diagnostic) : String :=
  Text.joined "\n" (ds.map (renderWith draw sources))

/-- The rows of a snippet as one text. -/
def drawn (colour : Bool) (source : Source) (d : Diagnostic) : String :=
  Text.joined "\n" ((Snippet.rows source d).map fun row => String.ofList (row.toText colour))

theorem renderAll_eq (sources : SourceMap) (colour : Bool) (ds : List Diagnostic) :
    renderAll sources colour ds = renderAllWith (drawn colour) sources ds := rfl

end Diagnostic

namespace SourceMap

variable {m n : SourceMap}

/-- A type whose places are known is spelled the same, whatever escapes its names. -/
theorem GrowsTo.spell_eq (grown : m.GrowsTo n) (s : Speller) {d : Descriptor}
    (known : ∀ span ∈ d.spans, ∀ id ∈ span.source, id < m.size) :
    (s.withSources n).spell d = (s.withSources m).spell d := by
  refine Speller.spell_congr rfl rfl fun span place => ?_
  rw [Speller.file?, Speller.file?]
  cases source : span.source with
  | none => rfl
  | some id => exact grown.path?_eq (known span place id source)

/-- Diagnostics at known places are shown the same, in whatever way a line is drawn. -/
theorem GrowsTo.renderAllWith_eq (grown : m.GrowsTo n) (draw : Source → Diagnostic → String)
    {ds : List Diagnostic} (known : ∀ d ∈ ds, ∀ id ∈ d.span.source, id < m.size) :
    Diagnostic.renderAllWith draw n ds = Diagnostic.renderAllWith draw m ds := by
  have shown : ∀ d ∈ ds, Diagnostic.renderWith draw n d = Diagnostic.renderWith draw m d := by
    intro d member
    have found : (d.span.source.bind fun id => n.get? id) =
        d.span.source.bind fun id => m.get? id := by
      cases source : d.span.source with
      | none => rfl
      | some id => exact grown.get?_eq (known d member id source)
    rw [Diagnostic.renderWith, Diagnostic.renderWith, found]
  rw [Diagnostic.renderAllWith, Diagnostic.renderAllWith, List.map_congr_left shown]

/-- What stands at known places is the same text with either map: every type, whatever its
templates and the names of its parts are, and all diagnostics, wherever the places lie that
have to do with them.  `draw` stands for any way to show a diagnostic beside its line. -/
structure ShownAlike (ids : List SourceId) (m n : SourceMap) : Prop where
  spell : ∀ (s : Speller) (d : Descriptor), (∀ span ∈ d.spans, span.IsKnown ids) →
    (s.withSources n).spell d = (s.withSources m).spell d
  render : ∀ (colour : Bool) (ds : List Diagnostic), (∀ d ∈ ds, d.span.IsKnown ids) →
    Diagnostic.renderAll n colour ds = Diagnostic.renderAll m colour ds
  renderWith : ∀ (draw : Source → Diagnostic → String) (ds : List Diagnostic),
    (∀ d ∈ ds, d.span.IsKnown ids) →
      Diagnostic.renderAllWith draw n ds = Diagnostic.renderAllWith draw m ds

theorem GrowsTo.shownAlike {ids : List SourceId} (grown : m.GrowsTo n)
    (given : ∀ id ∈ ids, id < m.size) : ShownAlike ids m n := by
  have shown : ∀ (draw : Source → Diagnostic → String) (ds : List Diagnostic),
      (∀ d ∈ ds, d.span.IsKnown ids) →
        Diagnostic.renderAllWith draw n ds = Diagnostic.renderAllWith draw m ds :=
    fun draw _ known =>
      grown.renderAllWith_eq draw fun d member id source => given id (known d member id source)
  exact {
    spell := fun s _ known =>
      grown.spell_eq s fun span place id source => given id (known span place id source)
    render := fun colour ds known => by
      rw [Diagnostic.renderAll_eq, Diagnostic.renderAll_eq, shown _ ds known]
    renderWith := shown }

/-- **Adding sources changes nothing that is told or shown of earlier ones.**  The numbers of
all sources differ in 32 bits, each call stays recorded under its place among the calls, and
what stands at places with earlier numbers is shown as before. -/
theorem calls_frame (earlier later : List Call) (few : earlier.length + later.length < 2 ^ 32) :
    let ids := (empty.calls earlier).1
    let small := (empty.calls earlier).2
    let others := (small.calls later).1
    let large := (small.calls later).2
    ((ids ++ others).map UInt32.ofNat).Nodup ∧
      (∀ id ∈ ids ++ others, (UInt32.ofNat id).toNat = id) ∧
      (∀ i c, earlier[i]? = some c →
        ids[i]? = some i ∧ small.Records i c ∧ large.Records i c) ∧
      ShownAlike ids small large := by
  intro ids small others large
  have size : small.size = earlier.length := (size_calls empty earlier).trans (Nat.zero_add _)
  have numbered : ids = List.range' 0 earlier.length := calls_ids empty earlier
  have grown : small.GrowsTo large := growsTo_calls small later
  have all : ids ++ others = List.range' 0 (earlier.length + later.length) := by
    have behind : others = List.range' (0 + earlier.length) later.length := by
      rw [Nat.zero_add, ← size]
      exact calls_ids small later
    rw [numbered, behind, List.range'_append_1]
  have whole : ∀ id ∈ ids ++ others, (UInt32.ofNat id).toNat = id := by
    intro id member
    rw [all] at member
    have below := (List.mem_range'_1.1 member).2
    exact UInt32.toNat_ofNat_of_lt' (by simp only [UInt32.size]; omega)
  refine ⟨?_, whole, fun i c added => ?_, grown.shownAlike fun id member => ?_⟩
  · refine List.Nodup.map_on (fun x left y right same => ?_) ?_
    · rw [← whole x left, ← whole y right, same]
    · rw [all]
      exact List.nodup_range' 1
  · obtain ⟨inside, -⟩ := List.getElem?_eq_some_iff.1 added
    have told := records_calls empty added
    rw [show empty.size = 0 from rfl, Nat.zero_add] at told
    refine ⟨?_, told, told.of_growsTo (size ▸ inside) grown⟩
    rw [numbered, List.getElem?_range' inside, Nat.zero_add, Nat.one_mul]
  · rw [numbered] at member
    have below := (List.mem_range'_1.1 member).2
    rwa [Nat.zero_add, ← size] at below

/-- A file that is added later changes neither where a structure of an earlier file is
declared, nor how a map of pointers to it is spelled, nor what is shown of a division. -/
theorem calls_frame_pointers :
    let earlier := [Call.addOneLiner "p / 0", Call.addFile "point.jn" "struct Point"]
    let later := [Call.addFile "main.jn" "import point"]
    let small := (empty.calls earlier).2
    let large := (small.calls later).2
    let declared : Span := ⟨some 1, 7, 12⟩
    let pointers := Descriptor.map (.scalar .str)
      ((Descriptor.named .struct "Point").withSpan declared).pointerTo
    let division := Diagnostic.report .divideByZero ⟨some 0, 2, 3⟩ ["/"]
      [⟨declared, "declared here"⟩, ⟨.detached, "made up"⟩]
    earlier.length + later.length < 2 ^ 32 ∧ large.path? 1 = some "point.jn" ∧
      ((Speller.ofConfig .standard).withSources large).spell pointers =
        ((Speller.ofConfig .standard).withSources small).spell pointers ∧
      Diagnostic.renderAll large true [division] = Diagnostic.renderAll small true [division] := by
  intro earlier later small large declared pointers division
  have few : earlier.length + later.length < 2 ^ 32 := by decide
  obtain ⟨-, -, recorded, shown⟩ := calls_frame earlier later few
  obtain ⟨-, -, file⟩ := recorded 1 _ rfl
  refine ⟨few, file.path, shown.spell _ pointers ?_, shown.render true [division] ?_⟩
  · decide
  · decide

end SourceMap

end BinarySolver
