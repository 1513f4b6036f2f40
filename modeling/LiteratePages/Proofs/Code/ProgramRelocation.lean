import LiteratePages.Code.Program
import LiteratePages.Proofs.Code.ExpressionRelocation

namespace LiteratePages.Code

def Goal.relocate (move : Nat → Nat) : Goal → Goal
  | .statement start => .statement (move start)
  | .assignment start name => .assignment (move start) name
  | .condition start branches => .condition (move start) (relocateBranches move branches)
  | .source start name => .source (move start) name

def Opener.relocate (move : Nat → Nat) : Opener → Opener
  | .branch start branches condition =>
      .branch (move start) (relocateBranches move branches) (condition.relocate move)
  | .otherwise start branches => .otherwise (move start) (relocateBranches move branches)
  | .loop start name source => .loop (move start) name (source.relocate move)

def Outer.relocate (move : Nat → Nat) (outer : Outer) : Outer :=
  ⟨outer.opener.relocate move, relocateBody move outer.statements⟩

def Phase.relocate (move : Nat → Nat) : Phase → Phase
  | .start => .start
  | .ended => .ended
  | .name text span => .name text (span.relocate move)
  | .expr goal state => .expr (goal.relocate move) (state.relocate move)
  | .loopName place => .loopName (move place)
  | .loopIn place item => .loopIn (move place) item
  | .afterElse place branches => .afterElse (move place) (relocateBranches move branches)
  | .branchEnd place stop branches laterLine =>
      .branchEnd (move place) (move stop) (relocateBranches move branches) laterLine

def ParseState.relocate (move : Nat → Nat) (state : ParseState) : ParseState :=
  ⟨state.phase.relocate move, relocateBody move state.statements,
    state.outer.map (Outer.relocate move), move state.last⟩

namespace ParseState

variable {move : Nat → Nat}

theorem add_relocate (state : ParseState) (statement : Statement) :
    (state.add statement).relocate move = (state.relocate move).add (statement.relocate move) := by
  simp [add, relocate, Phase.relocate]

theorem closeBlock_relocate (state : ParseState) (block : Outer) (rest : List Outer) (stop : Nat) :
    (state.closeBlock block rest stop).relocate move =
      (state.relocate move).closeBlock (block.relocate move) (rest.map (Outer.relocate move))
        (move stop) := by
  obtain ⟨opener, statements⟩ := block
  cases opener <;>
    simp [closeBlock, goto, add, relocate, Outer.relocate, Opener.relocate, Phase.relocate,
      Statement.relocate, Span.relocate]

theorem atEnd_relocate (move : Nat → Nat) (state : ParseState) (next : Located) :
    ((state.relocate move).atEnd (next.relocate move)).toOption =
      (state.atEnd next).toOption.map (relocate move) := by
  obtain ⟨token, span⟩ := next
  cases token with
  | closeBrace =>
      obtain ⟨phase, statements, outer, last⟩ := state
      cases outer with
      | nil => rfl
      | cons block rest => exact congrArg some (closeBlock_relocate ..).symm
  | _ => rfl

theorem atStart_relocate {next : Located}
    (agrees : FormatAgreesOn move readFormat readFormat next) (state : ParseState) :
    ((state.relocate move).atStart (next.relocate move)).toOption =
      (state.atStart next).toOption.map (relocate move) := by
  obtain ⟨token, span⟩ := next
  cases token with
  | closeBrace =>
      obtain ⟨phase, statements, outer, last⟩ := state
      cases outer with
      | nil => rfl
      | cons block rest => exact congrArg some (closeBlock_relocate ..).symm
  | format body start =>
      have operand := ExprState.startOperand_relocate agrees []
      simp only [atStart, Located.relocate, Token.relocate, List.map_nil] at operand ⊢
      rcases outcomes_of_toOption operand with ⟨expr, read, moved⟩ | ⟨_, _, read, moved⟩
      · rw [read, moved]
        rfl
      · rw [read, moved]
        rfl
  | _ => rfl

theorem conclude_relocate (state : ParseState) (goal : Goal) (e : Expr) (next : Located) :
    ((state.relocate move).conclude (goal.relocate move) (e.relocate move)
      (next.relocate move)).toOption =
      (state.conclude goal e next).toOption.map (relocate move) := by
  have ended : ∀ statement : Statement,
      (((state.relocate move).add (statement.relocate move)).atEnd (next.relocate move)).toOption =
        ((state.add statement).atEnd next).toOption.map (relocate move) := by
    intro statement
    rw [← add_relocate]
    exact atEnd_relocate move _ next
  cases goal with
  | statement start =>
      have done := ended (.expr e ⟨start, state.last⟩)
      obtain ⟨token, span⟩ := next
      cases token with
      | assign => rfl
      | _ => exact done
  | assignment start name => exact ended (.assign name e ⟨start, state.last⟩)
  | condition start branches =>
      obtain ⟨token, span⟩ := next
      cases token <;> rfl
  | source start name =>
      obtain ⟨token, span⟩ := next
      cases token <;> rfl

theorem feedExpr_relocate {next : Located}
    (agrees : FormatAgreesOn move readFormat readFormat next) (state : ParseState) (goal : Goal)
    (expr : ExprState) :
    ((state.relocate move).feedExpr (goal.relocate move) (expr.relocate move)
      (next.relocate move)).toOption =
      (state.feedExpr goal expr next).toOption.map (relocate move) := by
  unfold feedExpr
  rcases outcomes_of_toOption (ExprState.feed_relocate agrees expr) with
    ⟨stepped, read, moved⟩ | ⟨_, _, read, moved⟩
  · rw [read, moved]
    cases stepped with
    | more after => rfl
    | done e => exact conclude_relocate state goal e next
  · rw [read, moved]
    rfl

theorem read_relocate {next : Located} (agrees : FormatAgreesOn move readFormat readFormat next)
    (state : ParseState) :
    ((state.relocate move).read (next.relocate move)).toOption =
      (state.read next).toOption.map (relocate move) := by
  obtain ⟨phase, statements, outer, last⟩ := state
  cases phase with
  | start => exact atStart_relocate agrees _
  | ended => exact atEnd_relocate move _ next
  | name text span =>
      have fed := feedExpr_relocate agrees ⟨.name text span, statements, outer, last⟩
        (.statement span.start) ⟨.after (.variable text span) span.start, []⟩
      obtain ⟨token, place⟩ := next
      cases token with
      | assign => rfl
      | _ => exact fed
  | expr goal expr => exact feedExpr_relocate agrees _ goal expr
  | loopName start =>
      obtain ⟨token, span⟩ := next
      cases token <;> rfl
  | loopIn start name =>
      obtain ⟨token, span⟩ := next
      cases token <;> rfl
  | afterElse start branches =>
      obtain ⟨token, span⟩ := next
      cases token <;> rfl
  | branchEnd start stop branches laterLine =>
      let ended := add ⟨.branchEnd start stop branches laterLine, statements, outer, last⟩
        (.cond branches none ⟨start, stop⟩)
      have later := atStart_relocate agrees ended
      have sameLine := atEnd_relocate move ended next
      rw [add_relocate] at sameLine later
      obtain ⟨token, span⟩ := next
      cases token with
      | newline | elseWord => rfl
      | _ =>
          cases laterLine with
          | false => exact sameLine
          | true => exact later

theorem step_relocate {next : Located} (agrees : FormatAgreesOn move readFormat readFormat next)
    (state : ParseState) :
    ((state.relocate move).step (next.relocate move)).toOption =
      (state.step next).toOption.map (relocate move) :=
  bind_toOption (read_relocate agrees state) fun _ => rfl

theorem programEnd_relocate (state : ParseState) :
    (state.relocate move).programEnd.toOption =
      state.programEnd.toOption.map (Program.relocate move) := by
  obtain ⟨phase, statements, outer, last⟩ := state
  cases outer <;> rfl

theorem finish_relocate (state : ParseState) :
    (state.relocate move).finish.toOption = state.finish.toOption.map (Program.relocate move) := by
  have ended : ∀ statement : Statement,
      ((state.relocate move).add (statement.relocate move)).programEnd.toOption =
        (state.add statement).programEnd.toOption.map (Program.relocate move) := by
    intro statement
    rw [← add_relocate]
    exact programEnd_relocate _
  obtain ⟨phase, statements, outer, last⟩ := state
  cases phase with
  | start | ended => exact programEnd_relocate _
  | name text span => exact ended (.expr (.variable text span) ⟨span.start, last⟩)
  | expr goal expr =>
      simp only [finish, relocate, Phase.relocate]
      rcases outcomes_of_toOption (ExprState.finish_relocate move expr) with
        ⟨e, read, moved⟩ | ⟨_, _, read, moved⟩
      · rw [read, moved]
        cases goal with
        | statement start => exact ended (.expr e ⟨start, last⟩)
        | assignment start name => exact ended (.assign name e ⟨start, last⟩)
        | condition start branches => rfl
        | source start name => rfl
      · rw [read, moved]
        rfl
  | loopName start => rfl
  | loopIn start name => rfl
  | afterElse start branches => rfl
  | branchEnd start stop branches laterLine => exact ended (.cond branches none ⟨start, stop⟩)

def complete? (state : ParseState) (tokens : List Located) : Option Program :=
  (tokens.foldlM step state).toOption.bind fun state => state.finish.toOption

theorem complete?_relocate (agrees : FormatAgrees move readFormat readFormat) (state : ParseState)
    (tokens : List Located) :
    (state.relocate move).complete? (tokens.map (Located.relocate move)) =
      (state.complete? tokens).map (Program.relocate move) := by
  have folded := foldlM_toOption (relocate move) (Located.relocate move)
    (fun state next => step_relocate (agrees.on next) state) tokens state
  unfold complete?
  rcases outcomes_of_toOption folded with ⟨after, read, moved⟩ | ⟨_, _, read, moved⟩
  · rw [read, moved]
    exact finish_relocate after
  · rw [read, moved]
    rfl

end ParseState
end LiteratePages.Code
