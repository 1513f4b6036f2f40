import LiteratePages.FileSystem
import LiteratePages.Path
import LiteratePages.Toml.Data
import LiteratePages.Toml.Reader

namespace LiteratePages

structure SiteConfig where
  template : String
  /-- Literate sources, in the order in which they are rendered. -/
  pages : List String
  /-- The key of a page's metadata that says where the page goes. -/
  outputKey : String
  /-- The key under which the template finds the source of a page. -/
  bodyKey : String
  literateExtension : String
  /-- Data of every page, before its own. -/
  data : Metadata
  /-- The directory that the paths of outputs start from. -/
  root : String

namespace SiteConfig

def keys : List String :=
  ["template", "pages", "output_key", "body_key", "literate_extension", "data"]

def asText : Toml → Option String
  | .string text => some text
  | _ => none

/-- The text of a key, or `default` where the key is missing. -/
def textOr (entries : List (String × Toml)) (key default : String) : Option String :=
  match entries.lookup key with
  | some value => asText value
  | none => some default

/-- The settings that a text makes, unless it is no TOML, lacks a template, or has a key or a value
that means nothing. -/
def parse (text : String) : Option SiteConfig := do
  let entries ← Toml.parse text
  if entries.any (fun (key, _) => !keys.contains key) then none
  let template ← (← entries.lookup "template") |> asText
  let pages ← match entries.lookup "pages" with
    | some (.array items) => items.mapM asText
    | some _ => none
    | none => some []
  let outputKey ← textOr entries "output_key" "OUTPUT"
  let bodyKey ← textOr entries "body_key" "BODYPATH"
  let literateExtension ← textOr entries "literate_extension" "lit"
  let data ← match entries.lookup "data" with
    | some value => value.toData?
    | none => some []
  return { template, pages, outputKey, bodyKey, literateExtension, data, root := "" }

def within (base : String) (config : SiteConfig) : SiteConfig :=
  { config with
    template := Path.join base config.template
    pages := config.pages.map (Path.join base)
    root := base }

def outputPath (config : SiteConfig) (relative : String) : String := Path.join config.root relative

end SiteConfig

inductive ConfigError where
  | unreadable (path : String) (fault : FileFault)
  | invalid (path : String)
deriving Repr, DecidableEq

def ConfigError.headline : ConfigError → String
  | .unreadable path _ => "cannot read config " ++ path
  | .invalid path => "invalid config " ++ path

def ConfigError.message (error : ConfigError) : String :=
  match error with
  | .unreadable _ fault => error.headline ++ ": " ++ fault.message
  | .invalid _ => error.headline

/-- The settings that a file holds. Its paths start from the directory of the file. -/
def SiteConfig.load {σ : Type} [FileSystem σ] (files : σ) (path : String) :
    Except ConfigError SiteConfig :=
  match FileSystem.readText files path with
  | .error fault => .error (.unreadable path fault)
  | .ok text => match SiteConfig.parse text with
      | none => .error (.invalid path)
      | some config => match Path.directory? path with
          | some base => .ok (config.within base)
          | none => .ok config

end LiteratePages
