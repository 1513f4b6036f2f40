import LiteratePages.Code.Format

/-!
Programs from tokens, one token at a time. A state holds the statements of the body being read and,
for each block around it, what opened the block and the statements before it.
-/
namespace LiteratePages.Code

/-- What an expression is read for. -/
inductive Goal where
  | statement (start : Nat)
  | assignment (start : Nat) (name : String)
  | condition (start : Nat) (branches : List (Expr × List Statement))
  | source (start : Nat) (name : String)

inductive Opener where
  | branch (start : Nat) (branches : List (Expr × List Statement)) (condition : Expr)
  | otherwise (start : Nat) (branches : List (Expr × List Statement))
  | loop (start : Nat) (name : String) (source : Expr)

/-- A body that a block interrupts. -/
structure Outer where
  opener : Opener
  statements : List Statement

inductive Phase where
  | start
  | ended
  | name (text : String) (span : Span)
  | expr (goal : Goal) (state : ExprState)
  | loopName (start : Nat)
  | loopIn (start : Nat) (name : String)
  | afterElse (start : Nat) (branches : List (Expr × List Statement))
  /-- After the block of a condition, which ends at byte `stop`, on its last line or a later one.
  An `else` would belong to it. -/
  | branchEnd (start stop : Nat) (branches : List (Expr × List Statement)) (laterLine : Bool)

structure ParseState where
  phase : Phase
  statements : List Statement
  /-- The bodies around it, the innermost first. -/
  outer : List Outer
  last : Nat

namespace ParseState

def initial : ParseState := ⟨.start, [], [], 0⟩

def goto (state : ParseState) (phase : Phase) : ParseState := { state with phase }

def add (state : ParseState) (statement : Statement) : ParseState :=
  { state with statements := state.statements ++ [statement], phase := .ended }

def openBlock (state : ParseState) (opener : Opener) : ParseState :=
  { state with
    phase := .start
    statements := []
    outer := ⟨opener, state.statements⟩ :: state.outer }

/-- Closes the innermost block, `body`, with a brace that ends at byte `stop`. -/
def closeBlock (state : ParseState) (block : Outer) (rest : List Outer) (stop : Nat) :
    ParseState :=
  let body := state.statements
  let outside : ParseState := { state with statements := block.statements, outer := rest }
  match block.opener with
  | .branch start branches condition =>
      outside.goto (.branchEnd start stop (branches ++ [(condition, body)]) false)
  | .otherwise start branches => outside.add (.cond branches (some body) ⟨start, stop⟩)
  | .loop start name source => outside.add (.loop name source body ⟨start, stop⟩)

def atStart (state : ParseState) (next : Located) : Except SyntaxError ParseState :=
  let start := next.span.start
  let first : Except SyntaxError ParseState :=
    match ExprState.startOperand readFormat [] next with
    | .ok expr => .ok (state.goto (.expr (.statement start) expr))
    | .error error => .error error
  match next.token with
  | .newline | .semicolon => .ok (state.goto .start)
  | .closeBrace => match state.outer with
      | block :: rest => .ok (state.closeBlock block rest next.span.stop)
      | [] => first
  | .ifWord => .ok (state.goto (.expr (.condition start []) .initial))
  | .forWord => .ok (state.goto (.loopName start))
  | .elseWord => .error ⟨.strayElse, next.span⟩
  | .name text => .ok (state.goto (.name text next.span))
  | _ => first

def atEnd (state : ParseState) (next : Located) : Except SyntaxError ParseState :=
  match next.token with
  | .newline | .semicolon => .ok (state.goto .start)
  | .closeBrace => match state.outer with
      | block :: rest => .ok (state.closeBlock block rest next.span.stop)
      | [] => .error ⟨.expectedStatementEnd .closeBrace, next.span⟩
  | token => .error ⟨.expectedStatementEnd token, next.span⟩

def conclude (state : ParseState) (goal : Goal) (e : Expr) (next : Located) :
    Except SyntaxError ParseState :=
  match goal, next.token with
  | .statement _, .assign => .error ⟨.invalidTarget, next.span⟩
  | .statement start, _ => (state.add (.expr e ⟨start, state.last⟩)).atEnd next
  | .assignment start name, _ => (state.add (.assign name e ⟨start, state.last⟩)).atEnd next
  | .condition start branches, .openBrace => .ok (state.openBlock (.branch start branches e))
  | .source start name, .openBrace => .ok (state.openBlock (.loop start name e))
  | _, token => .error ⟨.expected .openBlock (some token), next.span⟩

def feedExpr (state : ParseState) (goal : Goal) (expr : ExprState) (next : Located) :
    Except SyntaxError ParseState :=
  match expr.feed readFormat next with
  | .ok (.more expr) => .ok (state.goto (.expr goal expr))
  | .ok (.done e) => state.conclude goal e next
  | .error error => .error error

def read (state : ParseState) (next : Located) : Except SyntaxError ParseState :=
  match state.phase with
  | .start => state.atStart next
  | .ended => state.atEnd next
  | .name text span => match next.token with
      | .assign => .ok (state.goto (.expr (.assignment span.start text) .initial))
      | _ => state.feedExpr (.statement span.start) ⟨.after (.variable text span) span.start, []⟩ next
  | .expr goal expr => state.feedExpr goal expr next
  | .loopName start => match next.token with
      | .name text => .ok (state.goto (.loopIn start text))
      | _ => .error ⟨.expectedName, next.span⟩
  | .loopIn start name => match next.token with
      | .inWord => .ok (state.goto (.expr (.source start name) .initial))
      | token => .error ⟨.expected .wordIn (some token), next.span⟩
  | .afterElse start branches => match next.token with
      | .ifWord => .ok (state.goto (.expr (.condition start branches) .initial))
      | .openBrace => .ok (state.openBlock (.otherwise start branches))
      | token => .error ⟨.expected .openBlock (some token), next.span⟩
  | .branchEnd start stop branches laterLine => match next.token with
      | .newline => .ok (state.goto (.branchEnd start stop branches true))
      | .elseWord => .ok (state.goto (.afterElse start branches))
      | _ =>
          let ended := state.add (.cond branches none ⟨start, stop⟩)
          if laterLine then ended.atStart next else ended.atEnd next

/-- Reads one token and notes where it ends. -/
def step (state : ParseState) (next : Located) : Except SyntaxError ParseState :=
  (state.read next).map ({ · with last := next.span.stop })

/-- The statements of a program that is complete outside all blocks. -/
def programEnd (state : ParseState) : Except SyntaxCause Program :=
  match state.outer with
  | [] => .ok state.statements
  | _ :: _ => .error .unclosedBlock

def finish (state : ParseState) : Except SyntaxCause Program :=
  match state.phase with
  | .start | .ended => state.programEnd
  | .name text span =>
      (state.add (.expr (.variable text span) ⟨span.start, state.last⟩)).programEnd
  | .expr goal expr => match expr.finish with
      | .error cause => .error cause
      | .ok e => match goal with
          | .statement start => (state.add (.expr e ⟨start, state.last⟩)).programEnd
          | .assignment start name => (state.add (.assign name e ⟨start, state.last⟩)).programEnd
          | .condition .. | .source .. => .error (.expected .openBlock none)
  | .loopName _ => .error .expectedName
  | .loopIn .. => .error (.expected .wordIn none)
  | .afterElse .. => .error (.expected .openBlock none)
  | .branchEnd start stop branches _ =>
      (state.add (.cond branches none ⟨start, stop⟩)).programEnd

end ParseState

/-- The program that tokens make up; `stop` is where the text they come from ends. -/
def Program.ofTokens (stop : Nat) (tokens : List Located) : Except SyntaxError Program :=
  match tokens.foldlM ParseState.step .initial with
  | .error error => .error error
  | .ok state => match state.finish with
      | .error cause => .error ⟨cause, ⟨stop, stop⟩⟩
      | .ok program => .ok program

def Program.ofChars (text : List Char) : Except SyntaxError Program :=
  match tokenize 0 text with
  | .error error => .error error
  | .ok tokens => Program.ofTokens (Text.byteLength text) tokens

def Program.parse (text : String) : Except SyntaxError Program := Program.ofChars text.toList

end LiteratePages.Code
