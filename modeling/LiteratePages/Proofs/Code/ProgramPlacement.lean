import LiteratePages.Proofs.Code.FormatPlacement
import LiteratePages.Proofs.Code.ProgramSteps

/-!
Where statements stand. A statement under way lies behind those of its body that are complete, and
what has been read of it lies between its start and the place that has been reached; the same holds
of the statement that each open block belongs to.
-/
namespace LiteratePages.Code

/-- A statement under way started at byte `start` and has been read up to byte `stop`, with
`statements` before it in a body that starts at byte `floor`. -/
structure Head (text : String) (floor start stop : Nat) (statements : List Statement)
    (exprs : List Expr) (branches : List (Expr × List Statement)) : Prop where
  before : PlacedBody text [⟨floor, start⟩] statements
  extent : Extent text floor start stop exprs
  branches : PlacedBranches text [⟨start, stop⟩] branches

def Goal.start : Goal → Nat
  | .statement start | .assignment start _ | .condition start _ | .source start _ => start

def Goal.branches : Goal → List (Expr × List Statement)
  | .condition _ branches => branches
  | _ => []

def Opener.start : Opener → Nat
  | .branch start _ _ | .otherwise start _ | .loop start _ _ => start

def Opener.exprs : Opener → List Expr
  | .branch _ _ e | .loop _ _ e => [e]
  | .otherwise .. => []

def Opener.branches : Opener → List (Expr × List Statement)
  | .branch _ branches _ | .otherwise _ branches => branches
  | .loop .. => []

/-- Where the statement that the innermost block belongs to starts. -/
def blocksStart : List Outer → Nat
  | [] => 0
  | block :: _ => block.opener.start

def PlacedBlocks (text : String) (stop : Nat) : List Outer → Prop
  | [] => True
  | block :: rest =>
      Head text (blocksStart rest) block.opener.start stop block.statements block.opener.exprs
        block.opener.branches ∧ PlacedBlocks text stop rest

/-- What is known in a phase when the text has been read up to byte `stop`. -/
def Phase.Placed (text : String) (floor stop : Nat) (statements : List Statement) : Phase → Prop
  | .start | .ended => PlacedBody text [⟨floor, stop⟩] statements
  | .name word span =>
      Head text floor span.start stop statements [] [] ∧
        ExprState.Placed text span.start stop ⟨.after (.variable word span) span.start, []⟩
  | .expr goal state =>
      Head text floor goal.start stop statements [] goal.branches ∧ state.Placed text goal.start stop
  | .loopName place | .loopIn place _ => Head text floor place stop statements [] []
  | .afterElse place branches => Head text floor place stop statements [] branches
  | .branchEnd place ends branches _ =>
      Head text floor place ends statements [] branches ∧ String.Pos.Raw.IsValid text ⟨ends⟩ ∧
        ends ≤ stop

/-- What is known of a program that has been read up to the end of a token. -/
structure ParseState.Placed (text : String) (state : ParseState) : Prop where
  blocks : PlacedBlocks text state.last state.outer
  reached : blocksStart state.outer ≤ state.last
  valid : String.Pos.Raw.IsValid text ⟨state.last⟩
  phase : state.phase.Placed text (blocksStart state.outer) state.last state.statements

variable {text : String} {floor start stop last : Nat} {statements : List Statement}
  {exprs : List Expr} {branches : List (Expr × List Statement)} {outers : List Span}

theorem Statement.Placed.inside {statement : Statement} (placed : statement.Placed text outers) :
    ∀ outer ∈ outers, statement.span.Inside outer := by
  cases statement with
  | assign | expr | loop => exact placed.1.inside
  | cond branches otherwise => cases otherwise <;> exact placed.1.inside

theorem inside_of_placedBody (placed : PlacedBody text outers statements) :
    ∀ statement ∈ statements, ∀ outer ∈ outers, statement.span.Inside outer := by
  induction statements with
  | nil => exact fun _ member => absurd member List.not_mem_nil
  | cons first rest ih =>
      intro statement member
      rcases List.mem_cons.mp member with rfl | later
      · exact placed.1.inside
      · exact ih placed.2.2 statement later

theorem wider_of_le (longer : last ≤ stop) : Wider [⟨start, last⟩] [⟨start, stop⟩] :=
  wider_of_inside ⟨Nat.le_refl _, longer⟩

/-- What lies inside a span lies inside all that this span lies inside of. -/
theorem wider_of_nested {span : Span} (inside : ∀ outer ∈ outers, span.Inside outer) :
    Wider [span] (span :: outers) := by
  intro other member
  refine ⟨span, List.mem_singleton.mpr rfl, ?_⟩
  rcases List.mem_cons.mp member with rfl | around
  · exact .refl other
  · exact inside other around

theorem placedBody_stretch (placed : PlacedBody text [⟨floor, last⟩] statements)
    (longer : last ≤ stop) : PlacedBody text [⟨floor, stop⟩] statements :=
  placedBody_mono (wider_of_le longer) statements placed

namespace Head

theorem mono (head : Head text floor start last statements exprs branches) (longer : last ≤ stop) :
    Head text floor start stop statements exprs branches :=
  ⟨head.before, head.extent.mono longer,
    placedBranches_mono (wider_of_le longer) branches head.branches⟩

/-- A statement starts with a token behind a body. -/
theorem opened {next : Located} (body : PlacedBody text [⟨floor, last⟩] statements)
    (reached : floor ≤ last) (above : last ≤ next.span.start) (stands : next.Stands text.toList) :
    Head text floor next.span.start next.span.stop statements [] [] :=
  ⟨placedBody_stretch body above,
    ⟨Nat.le_trans reached above, stands.forward, stands.sliceable.start, nofun⟩, trivial⟩

/-- An expression of the statement starts behind what has been read. -/
theorem initial (head : Head text floor start stop statements exprs branches) :
    ExprState.initial.Placed text start stop :=
  ⟨⟨Nat.le_of_lt head.extent.forward, head.extent.valid⟩, nofun⟩

theorem put (head : Head text floor start stop statements exprs branches) {e : Expr}
    (placed : e.Placed text [⟨start, stop⟩]) :
    Head text floor start stop statements [e] branches := by
  refine ⟨head.before, head.extent.put fun other member => ?_, head.branches⟩
  rwa [List.mem_singleton.mp member]

theorem nested (head : Head text floor start stop statements exprs branches)
    (closes : String.Pos.Raw.IsValid text ⟨stop⟩) :
    Span.Nested text [⟨floor, stop⟩] ⟨start, stop⟩ := by
  refine (head.extent.nested closes).mono (wider_of_inside ?_)
  exact ⟨head.extent.above, Nat.le_refl _⟩

/-- What lies inside a statement also lies inside its body. -/
theorem wider (head : Head text floor start stop statements exprs branches) :
    Wider [⟨start, stop⟩] [⟨start, stop⟩, ⟨floor, stop⟩] := by
  refine wider_of_nested fun outer member => ?_
  rw [List.mem_singleton.mp member]
  exact ⟨head.extent.above, Nat.le_refl _⟩

/-- The statement under way becomes the last of its body. -/
theorem conclude (head : Head text floor start stop statements exprs branches)
    {statement : Statement} (ends : statement.span = ⟨start, stop⟩)
    (placed : statement.Placed text [⟨floor, stop⟩]) :
    PlacedBody text [⟨floor, stop⟩] (statements ++ [statement]) := by
  have before := placedBody_stretch head.before (Nat.le_of_lt head.extent.forward)
  refine placedBody_concat before placed fun earlier member => ?_
  rw [ends]
  exact (inside_of_placedBody head.before earlier member _ (List.mem_singleton.mpr rfl)).2

end Head

theorem PlacedBlocks.mono {blocks : List Outer} (placed : PlacedBlocks text last blocks)
    (longer : last ≤ stop) : PlacedBlocks text stop blocks := by
  induction blocks with
  | nil => trivial
  | cons block rest ih => exact ⟨placed.1.mono longer, ih placed.2⟩

namespace ParseState

variable {state after : ParseState} {body : List Statement} {next : Located}

theorem Placed.expression {goal : Goal} {expr : ExprState} (placed : state.Placed text)
    (reading : state.phase.expression? = some (goal, expr)) :
    Head text (blocksStart state.outer) goal.start state.last state.statements [] goal.branches ∧
      expr.Placed text goal.start state.last := by
  obtain ⟨phase, statements, outer, last⟩ := state
  have known := placed.phase
  cases phase with
  | name | expr =>
      cases reading
      exact known
  | _ => cases reading

/-- All that has been read of the innermost body stands in it. -/
theorem Body.placed (complete : state.Body body) (placed : state.Placed text) :
    PlacedBody text [⟨blocksStart state.outer, state.last⟩] body := by
  cases complete with
  | start | ended => exact placed.phase
  | statement reading whole | assignment reading whole =>
      obtain ⟨head, expr⟩ := placed.expression reading
      have inside := Expr.placed_mono head.wider _ (whole.placed expr)
      exact head.conclude rfl ⟨head.nested placed.valid, inside⟩
  | branch start ends branches laterLine =>
      obtain ⟨head, valid, before⟩ := placed.phase
      have inside := placedBranches_mono head.wider _ head.branches
      exact placedBody_stretch (head.conclude rfl ⟨head.nested valid, inside, trivial⟩) before

theorem closeBlock_placed {phase : Phase} {block : Outer} {rest outer : List Outer}
    (blocks : PlacedBlocks text stop (block :: rest))
    (inner : PlacedBody text [⟨block.opener.start, stop⟩] body)
    (valid : String.Pos.Raw.IsValid text ⟨stop⟩) :
    Placed text { closeBlock ⟨phase, body, outer, last⟩ block rest stop with last := stop } := by
  obtain ⟨head, around⟩ := blocks
  have reached : blocksStart rest ≤ stop :=
    Nat.le_trans head.extent.above (Nat.le_of_lt head.extent.forward)
  obtain ⟨opener, statements⟩ := block
  cases opener with
  | branch start branches condition =>
      have test := head.extent.parts condition (List.mem_singleton.mpr rfl)
      have more := placedBranches_concat head.branches test inner
      exact ⟨around, reached, valid, ⟨head.before, head.extent.put nofun, more⟩, valid,
        Nat.le_refl _⟩
  | otherwise start branches =>
      have inside := placedBranches_mono head.wider branches head.branches
      have block := placedBody_mono head.wider body inner
      exact ⟨around, reached, valid, head.conclude rfl ⟨head.nested valid, inside, block⟩⟩
  | loop start name source =>
      have items := head.extent.parts source (List.mem_singleton.mpr rfl)
      have inside := Expr.placed_mono head.wider source items
      have block := placedBody_mono head.wider body inner
      exact ⟨around, reached, valid, head.conclude rfl ⟨head.nested valid, inside, block⟩⟩

theorem openBlock_placed {opener : Opener} (placed : state.Placed text)
    (stands : next.Stands text.toList) (above : state.last ≤ next.span.start)
    (head : Head text (blocksStart state.outer) opener.start next.span.stop state.statements
      opener.exprs opener.branches) :
    Placed text { state.openBlock opener with last := next.span.stop } := by
  have later : state.last ≤ next.span.stop := Nat.le_trans above (Nat.le_of_lt stands.forward)
  exact ⟨⟨head, placed.blocks.mono later⟩, Nat.le_of_lt head.extent.forward, stands.sliceable.stop,
    trivial⟩

theorem goto_placed {phase : Phase} (placed : state.Placed text) (stands : next.Stands text.toList)
    (above : state.last ≤ next.span.start)
    (known : phase.Placed text (blocksStart state.outer) next.span.stop body) :
    Placed text ⟨phase, body, state.outer, next.span.stop⟩ := by
  have later : state.last ≤ next.span.stop := Nat.le_trans above (Nat.le_of_lt stands.forward)
  exact ⟨placed.blocks.mono later, Nat.le_trans placed.reached later, stands.sliceable.stop, known⟩

theorem step_placed (placed : state.Placed text) (stands : next.Stands text.toList)
    (above : state.last ≤ next.span.start) (step : Step state next after) :
    Placed text { after with last := next.span.stop } := by
  have later : state.last ≤ next.span.stop := Nat.le_trans above (Nat.le_of_lt stands.forward)
  have opens := stands.sliceable.start
  have goesOn : ∀ {phase : Phase} {body : List Statement},
      phase.Placed text (blocksStart state.outer) next.span.stop body →
        Placed text ⟨phase, body, state.outer, next.span.stop⟩ := goto_placed placed stands above
  have begins : ∀ {body}, state.Body body →
      Head text (blocksStart state.outer) next.span.start next.span.stop body [] [] :=
    fun complete => Head.opened (complete.placed placed) placed.reached above stands
  cases step with
  | separator span separates complete =>
      exact goesOn (placedBody_stretch (complete.placed placed) later)
  | closeBlock span complete within =>
      have inner := placedBody_stretch (complete.placed placed) later
      have blocks := placed.blocks.mono later
      rw [within] at inner blocks
      exact closeBlock_placed blocks inner stands.sliceable.stop
  | ifWord span fresh complete => exact goesOn ⟨begins complete, (begins complete).initial⟩
  | forWord span fresh complete => exact goesOn (begins complete)
  | name word span fresh complete =>
      have head := begins complete
      have named : (Expr.variable word span).Placed text [span] := stands.variable
      refine goesOn ⟨head, head.initial.frames, fun start begun => ?_⟩
      cases begun
      exact ⟨Nat.le_refl _, stands.forward, opens, (head.put named).extent.parts⟩
  | operand fresh complete other started =>
      have head := begins complete
      have frames : PlacedFrames text next.span.start next.span.start [] := ⟨Nat.le_refl _, opens⟩
      have expr := ExprState.startOperand_placed readFormat_placed frames stands (Nat.le_refl _)
      rw [started] at expr
      exact goesOn ⟨head, expr⟩
  | assign span named =>
      have known := placed.phase
      rw [named] at known
      have head := known.1.mono later
      exact goesOn ⟨head, head.initial⟩
  | more reading fed =>
      obtain ⟨head, expr⟩ := placed.expression reading
      exact goesOn ⟨head.mono later, ExprState.feed_placed readFormat_placed expr stands above fed⟩
  | branchBlock span reading complete | loopBlock span reading complete =>
      obtain ⟨head, expr⟩ := placed.expression reading
      exact openBlock_placed placed stands above ((head.put (complete.placed expr)).mono later)
  | elseBlock span waiting =>
      have known := placed.phase
      rw [waiting] at known
      exact openBlock_placed placed stands above (known.mono later)
  | elseIf span waiting =>
      have known := placed.phase
      rw [waiting] at known
      have head := known.mono later
      exact goesOn ⟨head, head.initial⟩
  | loopName text span waiting =>
      have known := placed.phase
      rw [waiting] at known
      exact goesOn (known.mono later)
  | loopIn span waiting =>
      have known := placed.phase
      rw [waiting] at known
      have head := known.mono later
      exact goesOn ⟨head, head.initial⟩
  | laterLine span waiting =>
      have known := placed.phase
      rw [waiting] at known
      exact goesOn ⟨known.1, known.2.1, Nat.le_trans known.2.2 later⟩
  | elseWord span waiting =>
      have known := placed.phase
      rw [waiting] at known
      exact goesOn (known.1.mono (Nat.le_trans known.2.2 later))

/-- A token is read where it stands, or what is wrong is noted in it. -/
theorem step_meets (placed : state.Placed text) (stands : next.Stands text.toList)
    (above : state.last ≤ next.span.start) :
    Meets (fun after => after.Placed text ∧ after.last = next.span.stop)
      (SyntaxError.PointsInto text.toList) (state.step next) := by
  unfold step
  cases read : state.read next with
  | ok after => exact ⟨step_placed placed stands above (step_of_read read), rfl⟩
  | error error => exact readFormat_placed.points stands (read_eq_error read)

theorem run_meets {tokens : List Located} {ends : Nat} (placed : state.Placed text)
    (stand : Tokens text.toList state.last ends tokens) :
    Meets (Placed text) (SyntaxError.PointsInto text.toList) (tokens.foldlM step state) := by
  -- The tokens that are left stand behind those that have been read.
  let invariant : ParseState → List Located → Prop := fun state rest =>
    state.Placed text ∧ Tokens text.toList state.last ends rest
  have kept : ∀ state next rest, invariant state (next :: rest) →
      Meets (invariant · rest) (SyntaxError.PointsInto text.toList) (state.step next) := by
    rintro state next rest ⟨placed, stand⟩
    have stands := stand.stand next List.mem_cons_self
    have above := stand.lower next List.mem_cons_self
    refine (step_meets placed stands above).mono ?_ fun _ points => points
    rintro after ⟨placed, last⟩
    exact ⟨placed, last ▸ stand.tail⟩
  have whole : Meets (invariant · []) (SyntaxError.PointsInto text.toList)
      (tokens.foldlM step state) := Meets.foldlM kept ⟨placed, stand⟩
  exact whole.mono (fun _ ended => ended.1) fun _ points => points

end ParseState

theorem ofTokens_meets {tokens : List Located} {ends : Nat}
    (stand : Tokens text.toList 0 ends tokens) (nothing : Span.Cuts text.toList ⟨ends, ends⟩ []) :
    Meets (Program.Placed text) (SyntaxError.PointsInto text.toList)
      (Program.ofTokens ends tokens) := by
  have initial : ParseState.initial.Placed text :=
    ⟨trivial, Nat.le_refl _, String.Pos.Raw.isValid_zero, trivial⟩
  have ran := ParseState.run_meets initial stand
  unfold Program.ofTokens
  cases read : tokens.foldlM ParseState.step .initial with
  | error error =>
      rw [read] at ran
      exact ran
  | ok state =>
      rw [read] at ran
      dsimp only
      cases ended : state.finish with
      | error cause => exact .inl ⟨[], nothing⟩
      | ok program =>
          obtain ⟨_, complete⟩ := ParseState.finish_eq_ok_iff.mp ended
          have alone : Wider [⟨blocksStart state.outer, state.last⟩] [] :=
            fun _ member => absurd member List.not_mem_nil
          exact placedBody_mono alone program (complete.placed ran)

/-- A program that can be read stands in its text, and one that cannot be read is noted in it. -/
theorem parse_meets (text : String) :
    Meets (Program.Placed text) (SyntaxError.PointsInto text.toList) (Program.parse text) := by
  have whole : Span.Cuts text.toList ⟨0, Text.byteLength text.toList⟩ text.toList :=
    ⟨[], [], by simp, rfl, by simp⟩
  have parts : text.toList = [] ++ text.toList ++ [] := (List.append_nil text.toList).symm
  have read : Meets (Tokens text.toList 0 (0 + Text.byteLength text.toList))
      (SyntaxError.PointsInto text.toList) (tokenize 0 text.toList) :=
    tokenize_meets parts rfl (.inl rfl)
  rw [Nat.zero_add] at read
  unfold Program.parse Program.ofChars
  cases result : tokenize 0 text.toList with
  | error error =>
      rw [result] at read
      exact read
  | ok tokens =>
      rw [result] at read
      exact ofTokens_meets read whole.stop

end LiteratePages.Code
