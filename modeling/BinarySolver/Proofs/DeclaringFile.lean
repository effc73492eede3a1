/-
# BinarySolver.Proofs.DeclaringFile -- which file scopes the name behind an alias

A name is scoped by the file in which its type stands, and resolving an alias keeps the
place of the alias.  So a chain of aliases, each at a place of its own, is spelled as its
last target would be if it stood where the outermost alias stands (`spell_of_aliasChain`).
The emitted name tells the checksum of its file and nothing more of it
(`Identifier.emitted_eq_iff`), hence the alias of a declared type has the name of this type
if both stand in files with one checksum, or both in no file, and else it has another:
**`spell_aliasChain`**.
-/
import BinarySolver.Proofs.Aliasing

namespace BinarySolver

set_option autoImplicit false

/-! ## Emitted names -/

namespace Text

def hexDigitValue (c : Char) : Nat := if c.isDigit then c.toNat - 48 else c.toNat - 87

/-- The number that lower case hexadecimal digits stand for. -/
def hexValue (digits : List Char) : Nat :=
  digits.foldl (fun value c => 16 * value + hexDigitValue c) 0

theorem hexValue_append_singleton (digits : List Char) (c : Char) :
    hexValue (digits ++ [c]) = 16 * hexValue digits + hexDigitValue c := by
  rw [hexValue, List.foldl_append]
  rfl

theorem hexDigitValue_digitChar {n : Nat} (digit : n < 16) :
    hexDigitValue (Nat.digitChar n) = n := by
  have all : ∀ n < 16, hexDigitValue (Nat.digitChar n) = n := by decide
  exact all n digit

theorem hexValue_hex (n : Nat) : hexValue (hex n) = n := by
  induction n using Nat.strongRecOn with
  | ind n ih =>
      rcases Nat.lt_or_ge n 16 with digit | more
      · rw [hex, Nat.toDigits_of_lt_base digit]
        exact (Nat.zero_add _).trans (hexDigitValue_digitChar digit)
      · have last : n % 16 < 16 := Nat.mod_lt n (by decide)
        have front : 0 < n / 16 := Nat.div_pos more (by decide)
        have digits := Nat.toDigits_append_toDigits (b := 16) (by decide) front last
        rw [Nat.div_add_mod, Nat.toDigits_of_lt_base last] at digits
        have shorter := ih (n / 16) (Nat.div_lt_self (by omega) (by decide))
        rw [hex] at shorter ⊢
        rw [← digits, hexValue_append_singleton, shorter, hexDigitValue_digitChar last,
          Nat.div_add_mod]

/-- Zeros in front do not count. -/
theorem hexValue_hexPadded (width n : Nat) : hexValue (hexPadded width n) = n := by
  have zeros : ∀ k, hexValue (List.replicate k '0') = 0 := by
    intro k
    induction k with
    | zero => rfl
    | succ k ih => rw [List.replicate_succ', hexValue_append_singleton, ih]; rfl
  have value := hexValue_hex n
  rw [hexValue] at value ⊢
  rw [hexPadded, List.foldl_append]
  exact (congrArg (fun start => List.foldl _ start (hex n)) (zeros _)).trans value

end Text

namespace Identifier

/-- An emitted name tells whether it has a file, and the checksum of its path. -/
theorem emitted_eq_iff {name : String} {f g : Option String} :
    emitted name f = emitted name g ↔ f.map Text.checksum = g.map Text.checksum := by
  constructor
  · intro same
    have texts := congrArg String.toList same
    cases f with
    | none =>
        cases g with
        | none => rfl
        | some path => simp [emitted] at texts
    | some path =>
        cases g with
        | none => simp [emitted] at texts
        | some other =>
            simp only [emitted, String.toList_append, List.append_cancel_left_eq,
              List.append_cancel_right_eq, String.toList_ofList, List.append_assoc] at texts
            have values := congrArg Text.hexValue texts
            rw [Text.hexValue_hexPadded, Text.hexValue_hexPadded] at values
            rw [Option.map_some, Option.map_some, UInt32.toNat_inj.1 values]
  · intro same
    cases f <;> cases g <;> simp_all [emitted]

end Identifier

namespace Descriptor

/-! ## Chains of aliases -/

/-- The second type is an alias, of an alias and so on, of the first; each alias has a name
and a place of its own. -/
inductive AliasChain (p : Descriptor) : Descriptor → Prop
  | last {name : String} (identifier : Identifier.IsName name) (span : Span) :
      AliasChain p ((aliasTo name p).withSpan span)
  | link {name : String} {a : Descriptor} (identifier : Identifier.IsName name) (span : Span)
      (chain : AliasChain p a) : AliasChain p ((aliasTo name a).withSpan span)

/-- The categories of types that have a declaration, or may have one that is not known yet. -/
def declaredCategories : List Category := [.struct, .enum, .trait, .id]

/-- A type under its own name, at the place of its declaration. -/
inductive Declared (name : String) : Descriptor → Prop
  | named {c : Category} (kind : c ∈ declaredCategories) (span : Span) :
      Declared name ((Descriptor.named c name).withSpan span)
  | enumeration (underlying : Descriptor) (span : Span) :
      Declared name ((Descriptor.enumeration name underlying).withSpan span)

/-- A declared type is declared under its name wherever it is put. -/
theorem Declared.withSpan {name : String} {p : Descriptor} (declared : p.Declared name)
    (span : Span) : (p.withSpan span).Declared name := by
  cases declared with
  | named kind => exact .named kind span
  | enumeration underlying => exact .enumeration underlying span

theorem Declared.aliasOf {name : String} {p : Descriptor} (declared : p.Declared name) :
    p.aliasOf = none := by
  cases declared <;> rfl

theorem Declared.multi {name : String} {p : Descriptor} (declared : p.Declared name) :
    p.multi = false := by
  cases declared <;> rfl

theorem Declared.signature {name : String} {p : Descriptor} (declared : p.Declared name) :
    p.signature = name := by
  cases declared <;> rfl

/-- Of a declared type only the name is told. -/
theorem Declared.payloadForm {name : String} {p : Descriptor} (declared : p.Declared name) :
    p.payloadForm = .named := by
  cases declared with
  | named kind =>
      simp only [declaredCategories, List.mem_cons, List.not_mem_nil, or_false] at kind
      rcases kind with rfl | rfl | rfl | rfl <;> rfl
  | enumeration => rfl

theorem resolve_aliasTo_withSpan {name : String} (identifier : Identifier.IsName name)
    (d : Descriptor) (span : Span) :
    ((aliasTo name d).withSpan span).resolve = d.resolve.withSpan span :=
  resolve_of_isName rfl identifier

/-- Of all places on the way that of the outermost alias is kept. -/
theorem AliasChain.resolve {p a : Descriptor} (chain : AliasChain p a) :
    a.resolve = p.resolve.withSpan a.span := by
  induction chain with
  | last identifier span => exact resolve_aliasTo_withSpan identifier p span
  | link identifier span chain ih =>
      rw [resolve_aliasTo_withSpan identifier, ih]
      rfl

end Descriptor

namespace Speller

variable (s : Speller)

/-- A chain of aliases is spelled as its target at the place of the outermost alias. -/
theorem spell_of_aliasChain {p a : Descriptor} (chain : p.AliasChain a) :
    s.spell a = s.spell (p.withSpan a.span) := by
  rw [← s.spell_resolve a, ← s.spell_resolve (p.withSpan a.span), chain.resolve,
    Descriptor.resolve_withSpan]

/-- A declared type is spelled by its name, scoped by the file in which it stands. -/
theorem spell_of_declared {name : String} {p : Descriptor} (identifier : Identifier.IsName name)
    (declared : p.Declared name) : s.spell p = s.escaper name (s.file? p.span) := by
  have front : p.signature = name ++ "" := declared.signature.trans String.append_empty.symm
  have plain := Descriptor.isPlain_of_isName declared.multi identifier front
  rw [s.spell_of_isPlain declared.aliasOf plain, declared.payloadForm, body,
    s.nameOf_of_isName identifier front fun c member => by cases member]

/-- **The file that scopes a name behind aliases.**  A chain of aliases is spelled as the type
in which it ends would be at the place of the outermost alias.  If this is a declared type, it
is scoped by the file in which it stands, but behind the aliases by the file in which the
outermost alias stands; so with the usual names the two are spelled alike if and only if
these files have one checksum, or neither stands in a file. -/
theorem spell_aliasChain (s : Speller) {p a : Descriptor} (chain : p.AliasChain a) :
    s.spell a = s.spell (p.withSpan a.span) ∧
      ∀ name, Identifier.IsName name → p.Declared name →
        s.spell p = s.escaper name (s.file? p.span) ∧
          s.spell a = s.escaper name (s.file? a.span) ∧
          (s.escaper = Identifier.emitted →
            (s.spell a = s.spell p ↔
              (s.file? a.span).map Text.checksum = (s.file? p.span).map Text.checksum)) := by
  have moved := s.spell_of_aliasChain chain
  refine ⟨moved, ?_⟩
  intro name identifier declared
  have own := s.spell_of_declared identifier declared
  have chained : s.spell a = s.escaper name (s.file? a.span) := by
    rw [moved, s.spell_of_declared identifier (declared.withSpan a.span)]
    rfl
  refine ⟨own, chained, ?_⟩
  intro usual
  rw [own, chained, usual]
  exact Identifier.emitted_eq_iff

/-- The usual speller with two files, one source each. -/
def ofTwoFiles : Speller :=
  (ofConfig .standard).withSources
    ⟨[(.file "a.jn", "struct Point"), (.file "b.jn", "type P Point")]⟩

/-- An alias in the second file, of an alias without a place, of a struct in the first. -/
theorem spell_aliasChain_point :
    let p := (Descriptor.named .struct "Point").withSpan ⟨some 0, 7, 12⟩
    let inner := (Descriptor.aliasTo "Inner" p).withSpan .detached
    let a := (Descriptor.aliasTo "P" inner).withSpan ⟨some 1, 5, 6⟩
    p.AliasChain a ∧ p.Declared "Point" ∧ ofTwoFiles.escaper = Identifier.emitted ∧
      ofTwoFiles.spell p = "_a515ebe2_Point" ∧ ofTwoFiles.spell a = "_b7a0440c_Point" := by
  intro p inner a
  have chain : p.AliasChain a := .link (by decide) _ (.last (by decide) _)
  have declared : p.Declared "Point" := .named (by decide) _
  obtain ⟨-, told⟩ := spell_aliasChain ofTwoFiles chain
  obtain ⟨own, chained, -⟩ := told "Point" (by decide) declared
  refine ⟨chain, declared, rfl, ?_, ?_⟩
  · rw [own]
    decide +kernel
  · rw [chained]
    decide +kernel

/-- An alias in another file than its target, and an alias in no file, have other names. -/
theorem spell_alias_elsewhere :
    let p := (Descriptor.named .struct "Point").withSpan ⟨some 0, 7, 12⟩
    let a := (Descriptor.aliasTo "P" p).withSpan ⟨some 1, 5, 6⟩
    p.Declared "Point" ∧ p.AliasChain a ∧ p.AliasChain (.aliasTo "P" p) ∧
      ofTwoFiles.spell p = "_a515ebe2_Point" ∧ ofTwoFiles.spell a = "_b7a0440c_Point" ∧
      ofTwoFiles.spell (.aliasTo "P" p) = "JNID(Point)" ∧
      ofTwoFiles.spell a ≠ ofTwoFiles.spell p := by
  intro p a
  have point : Identifier.IsName "Point" := by decide
  have name : Identifier.IsName "P" := by decide
  have declared : p.Declared "Point" := .named (by decide) _
  have elsewhere : p.AliasChain a := .last name _
  have nowhere : p.AliasChain (.aliasTo "P" p) := .last name .detached
  have own : ofTwoFiles.spell p = "_a515ebe2_Point" := by
    rw [spell_of_declared _ point declared]
    decide +kernel
  have other : ofTwoFiles.spell a = "_b7a0440c_Point" := by
    rw [spell_of_aliasChain _ elsewhere, spell_of_declared _ point (declared.withSpan _)]
    decide +kernel
  have none : ofTwoFiles.spell (.aliasTo "P" p) = "JNID(Point)" := by
    rw [spell_of_aliasChain _ nowhere, spell_of_declared _ point (declared.withSpan _)]
    decide +kernel
  refine ⟨declared, elsewhere, nowhere, own, other, none, ?_⟩
  rw [own, other]
  decide

end Speller

end BinarySolver
