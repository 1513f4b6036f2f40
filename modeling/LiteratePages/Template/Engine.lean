import LiteratePages.FileSystem
import LiteratePages.Page.Document
import LiteratePages.Path
import LiteratePages.Template.Body

namespace LiteratePages

structure Engine where
  files : Texts
  /-- Files with this extension are literate sources. -/
  literateExtension : String
  /-- How many templates may be open inside each other. -/
  maxNesting : Nat
  executor : Host → Executor

/-- The result of rendering, and what was used for it. -/
abbrev Rendered := Except PageError String × Journal

/-- The name under which expressions render templates. -/
def renderTemplateName : String := "render_template"

/-- The name under which expressions find all data of the page. -/
def dataName : String := "data"

/-- The scope of an expression: a variable for every key of the data, the data as a whole unless a
key has that name, and the function that renders templates. -/
def expressionScope (data : Metadata) : Scope :=
  let scope := Scope.ofData data
  let scope := if scope.contains dataName then scope
    else scope.set dataName (.map (Value.entriesOfJson data))
  scope.define renderTemplateName

/-- What the scope of an expression holds under each name. -/
theorem expressionScope_get? (data : Metadata) (name : String) :
    (expressionScope data).get? name =
      if name = renderTemplateName then some (.function ⟨.host renderTemplateName, 0⟩)
      else match Entries.get? data name with
        | some value => some (.ofJson value)
        | none => if name = dataName then some (.map (Value.entriesOfJson data)) else none := by
  unfold expressionScope
  dsimp only
  rw [Scope.contains_ofData]
  by_cases template : name = renderTemplateName
  · rw [if_pos template, template, Scope.get?_define_self]
    split <;> rfl
  rw [if_neg template, Scope.get?_define_of_ne template]
  cases whole : Entries.get? data dataName with
  | some value =>
      rw [Entries.contains, whole, Option.isSome_some, if_pos rfl, Scope.get?_ofData]
      cases found : Entries.get? data name with
      | some value => rfl
      | none =>
          have part : name ≠ dataName := by
            rintro rfl
            cases whole.symm.trans found
          exact (if_neg part).symm
  | none =>
      rw [Entries.contains, whole, Option.isSome_none, if_neg Bool.false_ne_true]
      by_cases part : name = dataName
      · rw [part, Scope.get?_set_self, whole]
        rfl
      · rw [Scope.get?_set_of_ne part, Scope.get?_ofData]
        cases Entries.get? data name with
        | some value => rfl
        | none => exact (if_neg part).symm

def templateArguments (arguments : List Value) : Except Fault (String × Metadata) :=
  match arguments with
  | [.string path] => .ok (path, [])
  | [.string path, .map entries] => .ok (path, Value.entriesToJson entries)
  | [.string _, other] => .error (.typeMismatch .map other.typeName)
  | .string _ :: _ | [] => .error (.arity renderTemplateName 1 2 arguments.length)
  | other :: _ => .error (.typeMismatch .string other.typeName)

/-- The host of expressions, in which templates are rendered by `render`. -/
def templateHost (render : String → Metadata → Rendered) : Host := fun name identity arguments =>
  if name = renderTemplateName then
    match templateArguments arguments with
    | .error fault => ⟨.error fault, "", []⟩
    | .ok (path, data) =>
        let (result, journal) := render path data
        match result with
        | .ok text => ⟨.ok (.string text), "", journal⟩
        | .error error =>
            ⟨.error (.host (renderTemplateName ++ "(" ++ quoted path ++ "): " ++ error.message)),
              "", journal⟩
  else Host.none name identity arguments

def withoutFinalNewline (text : String) : String :=
  String.ofList (Text.dropFinal '\n' text.toList)

def evaluateHole (executor : Executor) (origin : String) (data : Metadata) (index : Nat)
    (hole : Hole) : Rendered :=
  let code := String.ofList (Text.dedent hole.code)
  let execution := executor code (expressionScope data)
  let result := match execution.result with
    | .ok () => .ok (withoutFinalNewline execution.output)
    | .error error => .error (.expression origin index code error)
  (result, .ran code :: execution.journal)

/-- Puts what the expressions print in their places, up to the first that fails. -/
def fillHoles (executor : Executor) (origin : String) (data : Metadata) (after : List Char) :
    (index : Nat) → List Hole → Rendered
  | _, [] => (.ok (String.ofList after), [])
  | index, hole :: rest =>
      let (printed, journal) := evaluateHole executor origin data index hole
      match printed with
      | .error error => (.error error, journal)
      | .ok printed =>
          let (others, more) := fillHoles executor origin data after (index + 1) rest
          (others.map fun others => String.ofList hole.before ++ printed ++ others, journal ++ more)

/-- Fills a text. What is put in is not looked at again. -/
def fill (executor : Executor) (origin text : String) (data : Metadata) : Rendered :=
  let body := Body.ofChars text.toList
  fillHoles executor origin data body.after 0 body.holes

namespace Engine

def isLiterate (engine : Engine) (path : String) : Bool :=
  Path.extension? path == some engine.literateExtension

/-- The body that the text of a template is, and its data. A literate source is assembled, and its
metadata comes before the data given. -/
def templateBody (engine : Engine) (executor : Executor) (path source : String) (data : Metadata) :
    Except PageError (String × Metadata) × Journal :=
  if engine.isLiterate path then
    let (result, journal) := assemble executor source
    (result.map fun (body, metadata) => (body, Entries.insertAll data metadata), journal)
  else (.ok (source, data), [])

def renderFile (engine : Engine) (executor : Executor) (path : String) (data : Metadata) :
    Rendered :=
  match engine.files.read path with
  | .error fault => (.error (.unreadable path fault), [.read path])
  | .ok source =>
      let (body, journal) := engine.templateBody executor path source data
      match body with
      | .error error => (.error error, .read path :: journal)
      | .ok (body, data) =>
          let (result, more) := fill executor path body data
          (result, .read path :: journal ++ more)

/-- Renders the template at `path` when `levels` more may be opened inside each other. -/
def renderWithin (engine : Engine) : (levels : Nat) → (path : String) → (data : Metadata) → Rendered
  | 0, path, _ => (.error (.nestingTooDeep engine.maxNesting path), [.refused path])
  | levels + 1, path, data =>
      let executor := engine.executor (templateHost (renderWithin engine levels))
      let (result, journal) := engine.renderFile executor path data
      (result, .entered path :: journal ++ [.left path])

def render (engine : Engine) (path : String) (data : Metadata) : Rendered :=
  engine.renderWithin engine.maxNesting path data

/-- Renders a template that is no file. -/
def renderText (engine : Engine) (text : String) (data : Metadata) : Rendered :=
  fill (engine.executor (templateHost engine.render)) "<string>" text data

end Engine

/-- The engine that gives code its meaning, with the usual bound. -/
def Engine.standard (files : Texts) (literateExtension : String) : Engine :=
  ⟨files, literateExtension, 32, interpret⟩

end LiteratePages
