/-
# BinarySolver.Source -- source texts and places in them

A `SourceMap` numbers its texts in the order in which they were added, and never
changes or drops one.  A `Span` is a range of octets in one of them; what the
library makes up itself has a span without a source.
-/

namespace BinarySolver

set_option autoImplicit false

/-- The number of a source in its map. -/
abbrev SourceId := Nat

/-- Where a text came from: given on the spot, or read from a file. -/
inductive SourceKind where
  | oneLiner
  | file (path : String)
deriving DecidableEq

namespace SourceKind

def displayName : SourceKind → String
  | oneLiner => "<expr>"
  | file path => path

def path? : SourceKind → Option String
  | oneLiner => none
  | file path => some path

end SourceKind

structure Source where
  id : SourceId
  kind : SourceKind
  content : String
deriving DecidableEq

structure SourceMap where
  entries : List (SourceKind × String)

namespace SourceMap

def empty : SourceMap := ⟨[]⟩

def size (m : SourceMap) : Nat := m.entries.length

def isEmpty (m : SourceMap) : Bool := m.entries.isEmpty

/-- The new source takes the next number. -/
def add (m : SourceMap) (kind : SourceKind) (content : String) : SourceId × SourceMap :=
  (m.size, ⟨m.entries ++ [(kind, content)]⟩)

def addOneLiner (m : SourceMap) (content : String) : SourceId × SourceMap :=
  m.add .oneLiner content

def addFile (m : SourceMap) (path content : String) : SourceId × SourceMap :=
  m.add (.file path) content

def oneLiner (content : String) : SourceId × SourceMap := empty.addOneLiner content

def get? (m : SourceMap) (id : SourceId) : Option Source :=
  m.entries[id]?.map fun e => ⟨id, e.1, e.2⟩

def content? (m : SourceMap) (id : SourceId) : Option String :=
  (m.get? id).map Source.content

/-- The path of a source that is a file. -/
def path? (m : SourceMap) (id : SourceId) : Option String :=
  (m.get? id).bind fun s => s.kind.path?

def toList (m : SourceMap) : List Source :=
  m.entries.mapIdx fun id e => ⟨id, e.1, e.2⟩

theorem get?_add_self (m : SourceMap) (kind : SourceKind) (content : String) :
    (m.add kind content).2.get? m.size = some ⟨m.size, kind, content⟩ := by
  simp [add, get?, size]

end SourceMap

/-- The octets from `start` up to but without `stop`. -/
structure Span where
  source : Option SourceId
  start : Nat
  stop : Nat
deriving DecidableEq

namespace Span

def detached : Span := ⟨none, 0, 0⟩

end Span

end BinarySolver
