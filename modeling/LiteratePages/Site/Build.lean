import LiteratePages.Site.Config
import LiteratePages.Template.Engine

namespace LiteratePages

inductive CommandError where
  | cannotRead (path : String) (fault : FileFault)
  | cannotRender (path : String) (error : PageError)
  | cannotParse (path : String) (error : PageError)
  | notObject (path : String) (error : Json.ReadError)
  | badAssignment (text : String)
  | config (error : ConfigError)
  | noOutput (page key : String)
  | cannotCreate (path : String) (fault : FileFault)
  | cannotWrite (path : String) (fault : FileFault)

def CommandError.message : CommandError → String
  | .cannotRead path fault => "cannot read " ++ path ++ ": " ++ fault.message
  | .cannotRender path error => "cannot render " ++ path ++ ": " ++ error.message
  | .cannotParse path error => "cannot parse " ++ path ++ ": " ++ error.message
  | .notObject path error => path ++ " is not a JSON object: " ++ error.message
  | .badAssignment text => "expected KEY=VALUE, got " ++ quoted text
  | .config error => error.message
  | .noOutput page key => page ++ " has no string \"" ++ key ++ "\" metadata key"
  | .cannotCreate path fault => "cannot create " ++ path ++ ": " ++ fault.message
  | .cannotWrite path fault => "cannot write " ++ path ++ ": " ++ fault.message

variable {σ : Type} [FileSystem σ]

def readInput (files : σ) (path : String) : Except CommandError String :=
  match FileSystem.readText files path with
  | .ok text => .ok text
  | .error fault => .error (.cannotRead path fault)

/-- Makes the directories above a file. What is made before a failure stays. -/
def prepareOutput (files : σ) (path : String) : Except CommandError Unit × σ :=
  match Path.directory? path with
  | none => (.ok (), files)
  | some above => match FileSystem.ensureDirectories files above with
      | (.ok (), files) => (.ok (), files)
      | (.error fault, files) => (.error (.cannotCreate above fault), files)

def writeOutput (files : σ) (path text : String) : Except CommandError Unit × σ :=
  match prepareOutput files path with
  | (.error error, files) => (.error error, files)
  | (.ok (), files) => match FileSystem.writeText files path text with
      | (.ok (), files) => (.ok (), files)
      | (.error fault, files) => (.error (.cannotWrite path fault), files)

def readPage (files : σ) (page : String) : Except CommandError Document := do
  let source ← readInput files page
  match Document.ofSource source with
  | .ok document => return document
  | .error error => throw (.cannotParse page error)

namespace SiteConfig

/-- The data that the template of a page is rendered with: that of the site, then the metadata of
the page, then the path of its source. -/
def pageData (config : SiteConfig) (page : String) (metadata : Metadata) : Metadata :=
  Entries.insert config.bodyKey (.string page) (Entries.insertAll config.data metadata)

/-- Renders a page. The answer holds where it goes and its text. -/
def renderPage (config : SiteConfig) (files : σ) (page : String) :
    Except CommandError (String × String) := do
  let document ← readPage files page
  let relative ← match (document.metadata.get? config.outputKey).bind Json.asString? with
    | some relative => pure relative
    | none => throw (.noOutput page config.outputKey)
  let engine := Engine.standard (FileSystem.texts files) config.literateExtension
  match (engine.render config.template (config.pageData page document.metadata)).1 with
  | .ok text => return (config.outputPath relative, text)
  | .error error => throw (.cannotRender page error)

def buildPage (config : SiteConfig) (files : σ) (page : String) : Except CommandError Unit × σ :=
  match config.renderPage files page with
  | .error error => (.error error, files)
  | .ok (path, text) => writeOutput files path text

/-- Builds pages in order, up to the first that fails. -/
def buildPages (config : SiteConfig) (files : σ) : List String → Except CommandError Unit × σ
  | [] => (.ok (), files)
  | page :: rest =>
      match config.buildPage files page with
      | (.error error, files) => (.error error, files)
      | (.ok (), files) => buildPages config files rest

end SiteConfig
end LiteratePages
