namespace LiteratePages

inductive FileFault where
  | notFound
  | alreadyExists
  | notDirectory
  | isDirectory
  | nameTooLong
  | zeroByte
  | invalidText
  /-- Anything else that is wrong with a file, in the words of the system that keeps it. -/
  | other (message : String)
deriving Repr, DecidableEq

def FileFault.message : FileFault → String
  | .notFound => "No such file or directory (os error 2)"
  | .alreadyExists => "File exists (os error 17)"
  | .notDirectory => "Not a directory (os error 20)"
  | .isDirectory => "Is a directory (os error 21)"
  | .nameTooLong => "File name too long (os error 36)"
  | .zeroByte => "file name contained an unexpected NUL byte"
  | .invalidText => "stream did not contain valid UTF-8"
  | .other message => message

/-- What reading comes to under every path. -/
structure Texts where
  read : (path : String) → Except FileFault String

def Texts.none : Texts := ⟨fun _ => .error .notFound⟩

/-- States of files that texts are read from and written to. Nothing is said of what a failure
leaves behind. -/
class FileSystem (σ : Type) where
  readText : (files : σ) → (path : String) → Except FileFault String
  /-- Makes a directory and those above it, as far as they do not exist. -/
  ensureDirectories : (files : σ) → (path : String) → Except FileFault Unit × σ
  writeText : (files : σ) → (path text : String) → Except FileFault Unit × σ

namespace FileSystem

variable {σ : Type} [FileSystem σ]

def texts (files : σ) : Texts := ⟨readText files⟩

end FileSystem
end LiteratePages
