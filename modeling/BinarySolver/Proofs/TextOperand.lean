/-
# BinarySolver.Proofs.TextOperand -- operands that are texts

    operand := 'str' '=' text

The text is taken as it stands, whatever is in it, but for the blanks at its end, which are
those of the operand and are taken away before it is divided (`read_text`).  So a text is
kept whole exactly if no blank ends it, as `read_str_a_blank` shows, and two texts are
joined without the blanks at their ends (`solve_texts`).
-/
import BinarySolver.Proofs.Assignment
import BinarySolver.Proofs.Request

namespace BinarySolver

set_option autoImplicit false

namespace Text

/-- A text does not end in a blank. -/
def EndsVisible (s : String) : Prop := ∀ c ∈ s.toList.getLast?, isBlank c = false

/-- A text without the blanks at its end. -/
structure IsStemOf (stem s : String) : Prop where
  blanks : ∃ after, IsBlank after ∧ s.toList = stem.toList ++ after
  visible : EndsVisible stem

/-- A text is its own stem exactly if it does not end in a blank. -/
theorem IsStemOf.eq_iff {stem s : String} (isStem : IsStemOf stem s) :
    stem = s ↔ EndsVisible s := by
  constructor
  · rintro rfl
    exact isStem.visible
  · intro visible
    obtain ⟨after, blank, parts⟩ := isStem.blanks
    rcases List.eq_nil_or_concat after with rfl | ⟨init, c, rfl⟩
    · rw [List.append_nil] at parts
      exact (String.toList_injective parts).symm
    · have last : c ∈ s.toList.getLast? := by simp [parts]
      have other := visible c last
      rw [blank c (by simp)] at other
      cases other

theorem isStemOf_trimEnd (s : String) : IsStemOf (String.ofList (trimEnd s.toList)) s := by
  refine ⟨?_, ?_⟩
  · obtain ⟨after, blank, parts⟩ := exists_trimEnd s.toList
    exact ⟨after, blank, by rwa [String.toList_ofList]⟩
  · intro c last
    rw [String.toList_ofList, trimEnd, List.getLast?_reverse] at last
    have kept := List.head?_dropWhile_not isBlank s.toList.reverse
    rw [last] at kept
    exact kept

end Text

namespace Operand

/-- What is behind the equals sign is the text, but for the blanks that end it. -/
theorem read_text (s : String) :
    read ("str=" ++ s).toList = .ok (.string (String.ofList (Text.trimEnd s.toList))) := by
  have parts : ("str=" ++ s).toList = "str".toList ++ '=' :: s.toList := by
    rw [String.toList_append]
    rfl
  have type : TypeExpr.read "str".toList = .ok (.scalar .str) :=
    TypeExpr.read_name (c := .str) (by decide)
  rw [parts, read_assigned (by decide), type]
  rfl

/-- The blank behind a text belongs to the operand. -/
theorem read_str_a_blank :
    read "str=a ".toList = .ok (.string "a") ∧
      read "str=a ".toList ≠ .ok (.string "a ") := by
  have reads : read "str=a ".toList = .ok (.string "a") := read_text "a "
  refine ⟨reads, ?_⟩
  rw [reads]
  intro same
  have kept := congrArg Value.constant (Except.ok.inj same)
  revert kept
  decide

end Operand

namespace Solver

/-- Two texts are joined. -/
theorem settle_strings (s : Solver) (p q : String) (i j k : Span) :
    s.settle ⟨(Value.string p).withSpan i, (Value.string q).withSpan j, ⟨.add, k⟩⟩ =
      Ruling.trace (.folded .add (.str p) (.str q) (.str (p ++ q)))
        (.of { type := .scalar .str, constant := some (.str (p ++ q)), width := .minimal }) := by
  -- the choice is a matter of the types, so it is made without the texts
  have choice : (Handler.priority.find? fun entry =>
      entry.2 (.scalar .str) || entry.2 (.scalar .str)).map Prod.fst = some .str := by decide
  have selected : Handler.select
      ⟨(Value.string p).withSpan i, (Value.string q).withSpan j, ⟨.add, k⟩⟩ = some .str := choice
  rw [settle, selected]
  rfl

end Solver

namespace Command.SolveRequest

/-- **Texts on the command line are joined without the blanks that end them.**  Whatever the
texts are, each is read as a constant of its stem, which is the text itself exactly if that
does not end in a blank; and the request to join them is answered with the constant of the
two stems, one behind the other, and with nothing to report. -/
theorem solve_texts (s t : String) (word : WordSize) :
    ∃ p q : String, Text.IsStemOf p s ∧ Text.IsStemOf q t ∧
      (p = s ↔ Text.EndsVisible s) ∧
      Operand.read ("str=" ++ s).toList = .ok (.string p) ∧
      Operand.read ("str=" ++ t).toList = .ok (.string q) ∧
      ∃ answer : Solved,
        solve { left := "str=" ++ s, op := "+", right := "str=" ++ t, wordSize := word } =
          .ok answer ∧
        answer.value.type = .scalar .str ∧ answer.value.constant = some (.str (p ++ q)) ∧
        answer.value.isConst = true ∧ answer.evaluation.diagnostics = [] := by
  let r : SolveRequest :=
    { left := "str=" ++ s, op := "+", right := "str=" ++ t, wordSize := word }
  let p := String.ofList (Text.trimEnd s.toList)
  let q := String.ofList (Text.trimEnd t.toList)
  have plus : BinaryOp.ofSymbol (String.ofList (Text.trim "+".toList)) = .ok .add :=
    BinaryOp.ofSymbol_symbol .add
  have reads : r.Reads .add (.string p) (.string q) :=
    ⟨plus, Operand.read_text s, Operand.read_text t⟩
  obtain ⟨spelling, answered⟩ := reads.solve_eq
  refine ⟨p, q, Text.isStemOf_trimEnd s, Text.isStemOf_trimEnd t, (Text.isStemOf_trimEnd s).eq_iff,
    Operand.read_text s, Operand.read_text t, _, answered, ?_⟩
  dsimp only
  rw [solution, Solver.solve_value, Solver.solve_diagnostics, reads.ruling_eq,
    Solver.settle_strings]
  exact ⟨rfl, rfl, rfl, rfl⟩

end Command.SolveRequest

end BinarySolver
