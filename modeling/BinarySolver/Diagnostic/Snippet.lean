/-
# BinarySolver.Diagnostic.Snippet -- a diagnostic beside the line that it is about

The line is shown with markers under it, carets under what the diagnostic is about and
dashes under what has to do with it.  The rightmost label follows its marker; the
others hang below, from right to left, on bars under the starts of their markers.
-/
import BinarySolver.Diagnostic
import BinarySolver.Diagnostic.Window
import BinarySolver.Text.Joined
import BinarySolver.Text.Styled

namespace BinarySolver

set_option autoImplicit false

open Text (Style Row)

/-- A marked stretch of a line, in columns; `first` and `last` count its ends in characters. -/
structure Mark where
  start : Nat
  stop : Nat
  first : Nat
  last : Nat
  primary : Bool
  label : List Char

/-- Where a line stands in the rows of a snippet: from column `offset` on, without the
columns that are cut off on its left. -/
structure Placement where
  offset : Nat
  cut : Nat

namespace Placement

/-- The place of a marker at a column of the line. -/
def marker (p : Placement) (column : Nat) : Nat := p.offset + column - p.cut

/-- The place of a label, which never goes left of the line. -/
def label (p : Placement) (column : Nat) : Nat := p.offset + (column - p.cut)

end Placement

namespace Mark

def width (a : Mark) : Nat := a.stop - a.start

/-- A marker with a label has to be led to it. -/
def hasLabel (a : Mark) : Bool := !a.label.isEmpty

/-- The stretches meet, the first one taken `padding` columns longer. -/
def overlaps (a b : Mark) (padding : Nat) : Bool :=
  (b.start ≤ a.start && a.start < b.stop) || (a.start ≤ b.start && b.start < a.stop + padding)

/-- The label of `next`, written behind its marker, would run into `a`. -/
def crowds (next a : Mark) : Bool :=
  next.hasLabel && overlaps next a (Line.octets next.label + 2)

/-- The first mark ends where the second does, or before. -/
def endsWithin (a b : Mark) : Bool := a.stop < b.stop || (a.stop == b.stop && a.last ≤ b.last)

/-- The level on which the label of each mark is written, from right to left; on
level zero it follows the marker.  A label goes a level down if the ones before it
leave no room, and stays behind those that are already down. -/
def levels (level : Nat) : List Mark → List (Nat × Mark)
  | [] => []
  | a :: rest =>
    let blocked := rest.any fun next =>
      overlaps next a 0 &&
        (next.hasLabel || next.start != a.start || next.stop != a.stop)
    let own := if level = 0 ∧ a.hasLabel ∧ blocked then 1 else level
    let crowded := rest.any fun next =>
      crowds next a && (a.hasLabel || (endsWithin next a && own == 0))
    (own, a) :: levels (if crowded then own + 1 else own) rest

/-- The first mark begins right of the second. -/
def isRightOf (a b : Mark) : Bool := b.start < a.start || (b.start == a.start && b.first < a.first)

def insertByStart (a : Mark) : List Mark → List Mark
  | [] => [a]
  | b :: bs => if a.isRightOf b then a :: b :: bs else b :: insertByStart a bs

/-- From right to left. -/
def sorted (marks : List Mark) : List Mark :=
  marks.foldl (fun sorted a => insertByStart a sorted) []

/-- The first mark is drawn before the second: short marks lie over long ones, and of two
that are equally long the primary one lies over the other. -/
def isUnder (a b : Mark) : Bool :=
  b.width < a.width || (b.width == a.width && !a.primary && b.primary)

def insertByWidth (a : Mark) : List Mark → List Mark
  | [] => [a]
  | b :: bs => if a.isUnder b then a :: b :: bs else b :: insertByWidth a bs

/-- From bottom to top. -/
def stacked (marks : List Mark) : List Mark :=
  marks.foldl (fun stacked a => insertByWidth a stacked) []

/-! ## Drawing -/

def style (severity : Style) (a : Mark) : Style := if a.primary then severity else .frame

def marker (a : Mark) : Char := if a.primary then '^' else '-'

/-- Bars, labels and markers of the marks on row number `row` below the line. -/
def drawRow (severity : Style) (place : Placement) (margin : Row) (row : Nat)
    (placed : List (Nat × Mark)) : Row :=
  let bars := placed.filter fun (level, a) => level ≠ 0 && a.hasLabel && row ≤ level
  let labels := placed.filter fun (level, a) =>
    a.hasLabel && row == (if level = 0 then 0 else level + 1)
  let withBars := bars.foldl
    (fun (drawn : Row) (_, a) =>
      drawn.put (place.marker a.start) (Row.piece (a.style severity) ['|']))
    margin
  let withLabels := labels.foldl
    (fun (drawn : Row) (level, a) =>
      drawn.put (place.label (if level = 0 then a.stop + 1 else a.start))
        (Row.piece (a.style severity) a.label))
    withBars
  if row = 0 then
    (stacked (placed.map Prod.snd)).foldl
      (fun (drawn : Row) a =>
        let start := place.marker a.start
        drawn.put start
          (Row.piece (a.style severity)
            (List.replicate (max (place.marker a.stop) (start + 1) - start) a.marker)))
      withLabels
  else withLabels

/-- All rows below the line, each behind the margin. -/
def draw (severity : Style) (place : Placement) (margin : Row) (marks : List Mark) : List Row :=
  let placed := levels 0 (sorted marks)
  let deepest := (placed.map Prod.fst).foldl max 0
  let rows := if deepest = 0 then 1 else deepest + 2
  (List.range rows).map fun row => drawRow severity place margin row placed

/-- What there is to be seen of a line with these marks. -/
def extent (text : List Char) (marks : List Mark) : Extent :=
  { indent := Window.indentOf text
    start := (marks.map start).foldl min ((marks.map start).headD 0)
    stop := (marks.map stop).foldl max 0
    labelStop := (marks.map fun a => a.stop + (Line.octets a.label + 1)).foldl max 0
    length := Line.octets text }

/-- Takes the middle out of every mark that is far wider than the window and meets no other:
from the row of the line and from the one of the markers, which come first. -/
def shorten (width : Nat) (marks : List Mark) (rows : List Row) : List Row :=
  let long := (stacked (sorted marks)).filter fun a =>
    2 * width < a.width && (marks.filter fun b => overlaps b a 0).length ≤ 1
  let pad := max (width / 3) 5
  let cut (row : Row) : Row :=
    long.foldl (fun row a => row.replace (a.start + pad) (a.stop - pad) Window.dots) row
  (rows.take 2).map cut ++ rows.drop 2

end Mark

namespace Snippet

/-- A range cut off at the end of the content; an empty one takes one octet more if
there is one. -/
def clampRange (span : Span) (limit : Nat) : Nat × Nat :=
  let start := min span.start limit
  let stop := min span.stop limit
  if start = stop then (start, min (start + 1) limit) else (start, stop)

/-- A range on a line, at least one column wide. -/
def annotate (line : Line) (range : Nat × Nat) (primary : Bool) (label : String) : Mark :=
  let start := line.columnOf range.1
  { start, stop := max (line.columnOf range.2) (start + 1)
    first := line.characterOf range.1, last := line.characterOf range.2, primary
    label := label.toList }

def severityStyle : Severity → Style
  | .error => .error
  | .warning => .warning

/-- The severity and the message; what follows a line feed in the message stands under its
start. -/
def title (severity : Severity) (message : String) : List Row :=
  let head := Row.piece (severityStyle severity) severity.name.toList
  match Line.pieces message.toList with
  | [] => [head]
  | first :: rest =>
    (head ++ Row.piece .strong (':' :: ' ' :: Line.shownText first)) ::
      rest.map fun piece =>
        Row.spaces (head.length + 2) ++ Row.piece .strong (Line.shownText piece)

/-- The rows of a diagnostic that stands in a source. -/
def rows (source : Source) (d : Diagnostic) : List Row :=
  let limit := source.content.utf8ByteSize
  let range := clampRange d.span limit
  let line := Line.locate source.content range.1
  let related := d.related.filter fun r => r.span.source = some source.id
  let marks :=
    annotate line range true d.message ::
      (related.map fun r => annotate line (clampRange r.span limit) false r.message)
  let number := Numeral.decimalText line.number
  let margin := Row.spaces (number.length + 1)
  let bar := Row.piece .frame ['|']
  let offset := number.length + 3
  let width := Window.screen - offset
  let (shown, cut) :=
    (Window.choose width (Mark.extent line.text marks)).clip width (Line.shownText line.text)
  let place :=
    Row.spaces number.length ++ Row.piece .frame ['-', '-', '>', ' '] ++
      Row.piece .plain
        (source.kind.displayName.toList ++ ':' :: number ++ ':' ::
          Numeral.decimalText (line.characterOf range.1))
  let code := Row.put (Row.piece .frame number ++ Row.spaces 1 ++ bar) offset shown
  let marked := Mark.draw (severityStyle d.severity) { offset, cut } (margin ++ bar) marks
  let hints := d.hints.flatMap fun hint =>
    [margin ++ bar,
      margin ++ Row.piece .frame ['=', ' '] ++ Row.piece .strong ['h', 'e', 'l', 'p'] ++
        Row.piece .plain (':' :: ' ' :: hint.toList)]
  title d.severity d.message ++ [place, margin ++ bar] ++
    Mark.shorten width marks (code :: marked) ++ hints

/-- The places that are marked in a source: that of the diagnostic, and those in the same
source that have to do with it. -/
def places (source : Source) (d : Diagnostic) : List Span :=
  d.span :: (d.related.filter fun r => r.span.source = some source.id).map Related.span

/-- The octets at which the source is cut to draw the markers. -/
def ranges (source : Source) (d : Diagnostic) : List (Nat × Nat) :=
  (places source d).map fun span => clampRange span source.content.utf8ByteSize

/-- A text can be cut between its characters only, so that a marker that begins or ends
within one cannot be drawn. -/
def isDrawable (source : Source) (d : Diagnostic) : Bool :=
  (ranges source d).all fun range =>
    decide (String.Pos.Raw.IsValid source.content ⟨range.1⟩) &&
      decide (String.Pos.Raw.IsValid source.content ⟨range.2⟩)

end Snippet

namespace Diagnostic

/-- A diagnostic as it is shown: beside its line if the map knows its source, else on
one line and without colour. -/
def render (sources : SourceMap) (colour : Bool) (d : Diagnostic) : String :=
  match d.span.source.bind fun id => sources.get? id with
  | some source =>
    Text.joined "\n" ((Snippet.rows source d).map fun row => String.ofList (row.toText colour))
  | none => d.toText

/-- All diagnostics, one under the other. -/
def renderAll (sources : SourceMap) (colour : Bool) (ds : List Diagnostic) : String :=
  Text.joined "\n" (ds.map (render sources colour))

/-- A diagnostic on one line can always be shown. -/
def isShowable (sources : SourceMap) (d : Diagnostic) : Bool :=
  match d.span.source.bind fun id => sources.get? id with
  | some source => Snippet.isDrawable source d
  | none => true

/-- All diagnostics, if each of them can be shown; else none is. -/
def renderAll? (sources : SourceMap) (colour : Bool) (ds : List Diagnostic) : Option String :=
  if ds.all (isShowable sources) then some (renderAll sources colour ds) else none

end Diagnostic

end BinarySolver
