import LiteratePages.Command.Arguments
import LiteratePages.Files
import LiteratePages.Site.Build

namespace LiteratePages

/-- What a command leaves: the files, what it prints, what it has to say when all went well, and
the error when it did not. -/
structure Report (σ : Type := Files) where
  files : σ
  printed : String
  notice : Option String
  error : Option CommandError

variable {σ : Type} [FileSystem σ]

namespace Report

def failed (files : σ) (error : CommandError) : Report σ := ⟨files, "", none, some error⟩

/-- The status that the program ends with after a command. -/
def exitCode (report : Report σ) : UInt32 :=
  match report.error with
  | none => 0
  | some _ => 1

/-- The report of a command that prints a text, or writes it to a file if one is named. -/
def ofText (files : σ) (output : Option String) (text : String) : Report σ :=
  match output with
  | none => ⟨files, text ++ "\n", none, none⟩
  | some path => match writeOutput files path text with
      | (.ok (), files) => ⟨files, "", none, none⟩
      | (.error error, files) => failed files error

def ofResult (files : σ) (output : Option String) (result : Except CommandError String) :
    Report σ :=
  match result with
  | .ok text => ofText files output text
  | .error error => failed files error

end Report

def renderSource (files : σ) (file : String) : Except CommandError String := do
  let source ← readInput files file
  match (assemble (interpret Host.none) source).1 with
  | .ok (body, _) => return body
  | .error error => throw (.cannotRender file error)

/-- A key and its value. What is not JSON is a string. -/
def readAssignment (text : String) : Except CommandError (String × Json) :=
  match Text.cut (· == '=') text.toList with
  | (_, none) => .error (.badAssignment text)
  | (key, some value) =>
      let value := String.ofList value
      .ok (String.ofList key, match Json.parse value with
        | .ok json => json
        | .error _ => .string value)

/-- The data that options give: the object of a file, and then single keys in order. -/
def readData (files : σ) (options : RenderOptions) : Except CommandError Metadata := do
  let initial ← match options.data with
    | none => pure []
    | some path => do
        let text ← readInput files path
        match Json.parseObject text with
        | .ok entries => pure entries
        | .error error => throw (.notObject path error)
  return Entries.insertAll initial (← options.set.mapM readAssignment)

def renderTemplate (files : σ) (options : RenderOptions) : Except CommandError String := do
  let data ← readData files options
  let engine := Engine.standard (FileSystem.texts files) options.literateExtension
  match (engine.render options.file data).1 with
  | .ok text => return text
  | .error error => throw (.cannotRender options.file error)

def buildSite (files : σ) (path : String) : Report σ :=
  match SiteConfig.load files path with
  | .error error => .failed files (.config error)
  | .ok config => match config.buildPages files config.pages with
      | (.error error, files) => .failed files error
      | (.ok (), files) =>
          ⟨files, "", some ("built " ++ toString config.pages.length ++ " page(s)"), none⟩

def Command.run (files : σ) : Command → Report σ
  | .html file output => .ofResult files output (renderSource files file)
  | .render options => .ofResult files options.output (renderTemplate files options)
  | .showMeta file => .ofResult files none
      ((readPage files file).map fun document => (Json.object document.metadata).pretty)
  | .build config => buildSite files config

def versionText : String := "litpage 0.1.0"

end LiteratePages
