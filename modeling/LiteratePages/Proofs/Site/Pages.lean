import LiteratePages.Command.Run
import LiteratePages.Proofs.Files.Writing
import LiteratePages.Proofs.Template.Nesting

/-!
The pages of a site, which all go through one engine. Its counter of open templates and the data
that the pages share go from page to page; no page finds them other than the first did, so that
what one page can do to another it does through files. This is so on any file system. What is known
of paths that lead apart is said of trees of files.
-/
namespace LiteratePages

/-- Acts on files once for each item, each time on what the time before left, until it fails. -/
def inTurn {σ ε α : Type} (act : σ → α → Except ε Unit × σ) (files : σ) :
    List α → Except ε Unit × σ
  | [] => (.ok (), files)
  | item :: rest =>
      match act files item with
      | (.error error, files) => (.error error, files)
      | (.ok (), files) => inTurn act files rest

section

variable {σ ε α : Type} {act : σ → α → Except ε Unit × σ} {files left : σ}

/-- A failure is that of one item, after those before it went well. -/
theorem inTurn_eq_error {items : List α} {error : ε}
    (failed : inTurn act files items = (.error error, left)) :
    ∃ before item after reached, items = before ++ item :: after ∧
      inTurn act files before = (.ok (), reached) ∧ act reached item = (.error error, left) := by
  induction items generalizing files with
  | nil => cases failed
  | cons item rest ih =>
      rw [inTurn] at failed
      split at failed
      · next first =>
          cases failed
          exact ⟨[], item, rest, files, rfl, rfl, first⟩
      · next reached first =>
          obtain ⟨before, failing, after, last, rfl, earlier, fails⟩ := ih failed
          refine ⟨item :: before, failing, after, last, rfl, ?_, fails⟩
          rw [inTurn, first]
          exact earlier

end

namespace SiteConfig

section

variable {σ : Type} [FileSystem σ]

def engine (config : SiteConfig) (files : σ) : Engine :=
  Engine.standard (FileSystem.texts files) config.literateExtension

/-- Renders a page with the engine that has rendered the pages before it, and with the data that it
shares with them. -/
def renderPageCounted (config : SiteConfig) (shared : Metadata) (files : σ) (page : String) :
    Counting (Except CommandError (String × String)) :=
  match readPage files page with
  | .error error => return .error error
  | .ok document =>
      match (document.metadata.get? config.outputKey).bind Json.asString? with
      | none => return .error (.noOutput page config.outputKey)
      | some relative => do
          let data := Entries.insert config.bodyKey (.string page)
            (Entries.insertAll shared document.metadata)
          match ← (config.engine files).service config.template data with
          | .ok text => return .ok (config.outputPath relative, text)
          | .error error => return .error (.cannotRender page error)

def buildPageCounted (config : SiteConfig) (shared : Metadata) (files : σ) (page : String) :
    Counting (Except CommandError Unit × σ) := do
  match ← config.renderPageCounted shared files page with
  | .error error => return (.error error, files)
  | .ok (path, text) => return writeOutput files path text

def buildPagesCounted (config : SiteConfig) (shared : Metadata) (files : σ) :
    List String → Counting (Except CommandError Unit × σ)
  | [] => return (.ok (), files)
  | page :: rest => do
      match ← config.buildPageCounted shared files page with
      | (.error error, files) => return (.error error, files)
      | (.ok (), files) => config.buildPagesCounted shared files rest

/-- Builds pages with an engine that nothing was asked before, and with the data of the site. -/
def build (config : SiteConfig) (files : σ) (pages : List String) : Except CommandError Unit × σ :=
  (config.buildPagesCounted config.data files pages 0).1

variable (config : SiteConfig)

theorem renderPage_eq (files : σ) (page : String) :
    config.renderPage files page =
      match readPage files page with
      | .error error => .error error
      | .ok document =>
          match (document.metadata.get? config.outputKey).bind Json.asString? with
          | none => .error (.noOutput page config.outputKey)
          | some relative =>
              match ((config.engine files).render config.template
                  (config.pageData page document.metadata)).1 with
              | .ok text => .ok (config.outputPath relative, text)
              | .error error => .error (.cannotRender page error) := by
  unfold renderPage
  cases readPage files page with
  | error error => rfl
  | ok document =>
      simp only [bind, Except.bind]
      cases (document.metadata.get? config.outputKey).bind Json.asString? with
      | none => rfl
      | some relative => rfl

/-- A page leaves the counter as it was, and comes to what it comes to by itself. -/
theorem renderPageCounted_eq (files : σ) (page : String) :
    ∃ moments, config.renderPageCounted config.data files page 0 =
      (config.renderPage files page, moments, 0) := by
  rw [renderPage_eq]
  unfold renderPageCounted
  cases readPage files page with
  | error error => exact ⟨[], rfl⟩
  | ok document =>
      dsimp only
      cases (document.metadata.get? config.outputKey).bind Json.asString? with
      | none => exact ⟨[], rfl⟩
      | some relative =>
          -- The one call that the page makes is the outermost, so it finds nothing open.
          have interprets : (config.engine files).executor = interpret := rfl
          obtain ⟨moments, served, -⟩ := serverFollows_service interprets 0 config.template
            (config.pageData page document.metadata)
          refine ⟨moments, ?_⟩
          dsimp only
          rw [Counting.bind_apply, ← pageData, served]
          unfold Engine.render
          rw [Nat.sub_zero]
          cases ((config.engine files).renderWithin (config.engine files).maxNesting config.template
            (config.pageData page document.metadata)).1 <;> simp

theorem buildPageCounted_eq (files : σ) (page : String) :
    ∃ moments, config.buildPageCounted config.data files page 0 =
      (config.buildPage files page, moments, 0) := by
  obtain ⟨moments, rendered⟩ := config.renderPageCounted_eq files page
  refine ⟨moments, ?_⟩
  unfold buildPageCounted buildPage
  rw [Counting.bind_apply, rendered]
  cases config.renderPage files page <;> simp

/-- Over all pages the counter comes back to where it started, and each page finds it there. -/
theorem buildPagesCounted_eq (files : σ) (pages : List String) :
    ∃ moments, config.buildPagesCounted config.data files pages 0 =
      (config.buildPages files pages, moments, 0) := by
  induction pages generalizing files with
  | nil => exact ⟨[], rfl⟩
  | cons page rest ih =>
      obtain ⟨moments, first⟩ := config.buildPageCounted_eq files page
      unfold buildPagesCounted buildPages
      rw [Counting.bind_apply, first]
      rcases config.buildPage files page with ⟨_ | _, reached⟩
      · exact ⟨moments, by simp⟩
      · obtain ⟨more, others⟩ := ih reached
        exact ⟨moments ++ more, by simp [others]⟩

theorem build_eq (files : σ) (pages : List String) :
    config.build files pages = config.buildPages files pages := by
  obtain ⟨moments, built⟩ := config.buildPagesCounted_eq files pages
  rw [build, built]

theorem buildPages_eq_inTurn (files : σ) (pages : List String) :
    config.buildPages files pages = inTurn config.buildPage files pages := by
  induction pages generalizing files with
  | nil => rfl
  | cons page rest ih =>
      unfold buildPages inTurn
      rcases config.buildPage files page with ⟨_ | _, reached⟩
      · rfl
      · exact ih reached

theorem build_single (files : σ) (page : String) :
    config.build files [page] = config.buildPage files page := by
  rw [build_eq, buildPages]
  rcases config.buildPage files page with ⟨_ | _, reached⟩ <;> rfl

/-- Where the pages go and what is written there, up to the first page that fails. -/
def outputs (config : SiteConfig) (files : σ) : List String → List (String × String)
  | [] => []
  | page :: rest =>
      match config.renderPage files page with
      | .error _ => []
      | .ok (path, text) =>
          match writeOutput files path text with
          | (.error _, _) => []
          | (.ok (), files) => (path, text) :: config.outputs files rest

end

end SiteConfig

/-- What stays when `outputs` have been written: each of them is there, until a later one goes to
its place, and so is every other text, until one goes to that place. -/
structure Keeps (files left : Files) (outputs : List (String × String)) : Prop where
  directories : files.KeepsDirectories left
  texts : ∀ {path text}, files.readText path = .ok text →
    (∀ output ∈ outputs, left.place? output.1 ≠ left.place? path) → left.readText path = .ok text
  written : ∀ {before path text later}, outputs = before ++ (path, text) :: later →
    (∀ output ∈ later, left.place? output.1 ≠ left.place? path) → left.readText path = .ok text

namespace Keeps

variable {files middle left : Files} {path text : String} {outputs : List (String × String)}

theorem of_growsTo (grows : files.GrowsTo left) : Keeps files left [] where
  directories := grows.keepsDirectories
  texts read _ := grows.readText read
  written parts := absurd parts.symm (by simp)

theorem cons (first : writeOutput files path text = (.ok (), middle))
    (rest : Keeps middle left outputs) : Keeps files left ((path, text) :: outputs) := by
  obtain ⟨stay, read, others⟩ := readText_of_writeOutput first
  refine ⟨stay.trans rest.directories, fun {other held} before apart => ?_, ?_⟩
  · -- Paths that lead apart after the last output led apart when this one was written.
    obtain ⟨place, leads⟩ := Files.exists_place_of_readText read
    have elsewhere : middle.place? other ≠ middle.place? path :=
      rest.directories.place?_ne leads (apart _ List.mem_cons_self).symm
    exact rest.texts (others before elsewhere) fun output member =>
      apart output (List.mem_cons_of_mem _ member)
  · intro before other held later parts apart
    rcases List.cons_eq_append_iff.mp parts with ⟨rfl, same⟩ | ⟨more, rfl, same⟩
    · cases same
      exact rest.texts read apart
    · exact rest.written same apart

end Keeps

namespace SiteConfig

section

variable {σ : Type} [FileSystem σ] {config : SiteConfig} {files left : σ} {error : CommandError}
  {page : String}

theorem unwritten_of_buildPage_error (failed : config.buildPage files page = (.error error, left)) :
    Unwritten files left := by
  unfold buildPage at failed
  split at failed
  · cases failed
    exact .untouched
  · exact unwritten_of_writeOutput_error failed

theorem length_outputs {before after : List String} {page : String} {reached : σ}
    (earlier : config.buildPages files before = (.ok (), reached))
    (failed : config.buildPage reached page = (.error error, left)) :
    (config.outputs files (before ++ page :: after)).length = before.length := by
  induction before generalizing files with
  | nil =>
      cases earlier
      unfold buildPage at failed
      rw [List.nil_append, outputs]
      cases rendered : config.renderPage reached page with
      | error error => rfl
      | ok output =>
          rw [rendered] at failed
          simp only [failed, List.length_nil]
  | cons first rest ih =>
      unfold buildPages buildPage at earlier
      rw [List.cons_append, outputs]
      cases rendered : config.renderPage files first with
      | error error =>
          rw [rendered] at earlier
          cases earlier
      | ok output =>
          obtain ⟨path, text⟩ := output
          rw [rendered] at earlier
          dsimp only at earlier ⊢
          rcases filed : writeOutput files path text with ⟨error | _, middle⟩
          · rw [filed] at earlier
            cases earlier
          · rw [filed] at earlier
            exact congrArg (· + 1) (ih earlier)

end

theorem keeps_buildPages (config : SiteConfig) (files : Files) (pages : List String) :
    Keeps files (config.buildPages files pages).2 (config.outputs files pages) := by
  induction pages generalizing files with
  | nil => exact .of_growsTo (.refl files)
  | cons page rest ih =>
      unfold buildPages outputs buildPage
      cases config.renderPage files page with
      | error error => exact .of_growsTo (.refl files)
      | ok output =>
          obtain ⟨path, text⟩ := output
          dsimp only
          rcases filed : writeOutput files path text with ⟨error | _, reached⟩
          · exact .of_growsTo (unwritten_of_writeOutput_error filed).growsTo
          · exact (ih reached).cons filed

/-- Building pages with one engine, on any files. -/
structure PageByPage {σ : Type} [FileSystem σ] (config : SiteConfig) (files : σ)
    (pages : List String) : Prop where
  /-- It is building them one after the other, each with an engine of its own. -/
  inTurn : config.build files pages =
    LiteratePages.inTurn (fun files page => config.build files [page]) files pages
  /-- Where that fails, it is one page that fails, and is not written, after those before it were
  built. -/
  stops : ∀ error left, config.build files pages = (.error error, left) →
    ∃ before page after reached, pages = before ++ page :: after ∧
      config.build files before = (.ok (), reached) ∧
      config.build reached [page] = (.error error, left) ∧ Unwritten reached left ∧
      (config.outputs files pages).length = before.length
  /-- The command that builds a site with these settings does this with its pages. -/
  reported : ∀ path, SiteConfig.load files path = .ok config →
    (buildSite files path).files = (config.build files config.pages).2 ∧
      (buildSite files path).exitCode = match (config.build files config.pages).1 with
        | .ok () => 0
        | .error _ => 1

theorem pageByPage {σ : Type} [FileSystem σ] (config : SiteConfig) (files : σ)
    (pages : List String) : PageByPage config files pages where
  inTurn := by
    have single : (fun (files : σ) page => config.build files [page]) = config.buildPage := by
      funext files page
      exact config.build_single files page
    rw [single, build_eq, buildPages_eq_inTurn]
  stops error left failed := by
    rw [build_eq, buildPages_eq_inTurn] at failed
    obtain ⟨before, page, after, reached, rfl, earlier, fails⟩ := inTurn_eq_error failed
    rw [← buildPages_eq_inTurn] at earlier
    refine ⟨before, page, after, reached, rfl, ?_, ?_, unwritten_of_buildPage_error fails,
      length_outputs earlier fails⟩
    · rw [build_eq, earlier]
    · rw [build_single, fails]
  reported path loaded := by
    rw [build_eq, buildSite, loaded]
    dsimp only
    rcases config.buildPages files config.pages with ⟨error | _, left⟩ <;> exact ⟨rfl, rfl⟩

/-- Building pages with one engine is building them one after the other, each with an engine of its
own. Where that fails, it is one page that fails, and is not written, after those before it were
built; and the command that builds the site then ends with status one. In a tree of files, the
outputs that were written stay, and a page that is not written leaves new directories at most. -/
theorem build_page_by_page (config : SiteConfig) (pages : List String) :
    (∀ {σ : Type} [FileSystem σ] (files : σ), PageByPage config files pages) ∧
      (∀ files : Files, Keeps files (config.build files pages).2 (config.outputs files pages)) ∧
        ∀ {reached left : Files}, Unwritten reached left → reached.GrowsTo left := by
  refine ⟨fun files => config.pageByPage files pages, fun files => ?_, Unwritten.growsTo⟩
  rw [build_eq]
  exact config.keeps_buildPages files pages

/-- The second page has no source. The template and the output of the first lie outside the working
directory. -/
theorem build_page_by_page_missing_source :
    let files : Files := ⟨[(["t"], .file "x".toUTF8),
      (["w", "a"], .file "# \x7b\"OUTPUT\": \"/d/o\"\x7d".toUTF8),
      (["w", "c"], .file "template = \"../t\"\npages = [\"a\", \"b\"]".toUTF8)], ["w"]⟩
    let config : SiteConfig := ⟨"../t", ["a", "b"], "OUTPUT", "BODYPATH", "lit", [], ""⟩
    let left : Files :=
      ⟨files.nodes ++ [(["d"], .directory), (["d", "o"], .file "x".toUTF8)], ["w"]⟩
    config.build files ["a", "b"] = (.error (.cannotRead "b" .notFound), left) ∧
      left.readText "/d/o" = .ok "x" ∧
      (∃ before page after reached, ["a", "b"] = before ++ page :: after ∧
        config.build files before = (.ok (), reached) ∧ reached.GrowsTo left ∧
        before.length = 1) ∧
      SiteConfig.load files "c" = .ok config ∧ (buildSite files "c").exitCode = 1 := by
  intro files config left
  have first : config.renderPage files "a" = .ok ("/d/o", "x") := by
    simp only [config, files]
    rfl
  have filed : writeOutput files "/d/o" "x" = (.ok (), left) := by
    simp only [left, files]
    rfl
  have second : config.renderPage left "b" = .error (.cannotRead "b" .notFound) := by
    simp only [config, left, files]
    rfl
  have built : config.build files ["a", "b"] = (.error (.cannotRead "b" .notFound), left) := by
    simp only [build_eq, buildPages, buildPage, first, filed, second]
  have outputs : config.outputs files ["a", "b"] = [] ++ ("/d/o", "x") :: [] := by
    simp only [SiteConfig.outputs, first, filed, second, List.nil_append]
  have loaded : SiteConfig.load files "c" = .ok config := by
    have source : FileSystem.readText files "c" =
        .ok "template = \"../t\"\npages = [\"a\", \"b\"]" := rfl
    have parsed : SiteConfig.parse "template = \"../t\"\npages = [\"a\", \"b\"]" =
        some config := by
      have fields : (SiteConfig.parse "template = \"../t\"\npages = [\"a\", \"b\"]").map
          (fun c => ([c.template, c.outputKey, c.bodyKey, c.literateExtension, c.root], c.pages,
            c.data.length)) =
          some (["../t", "OUTPUT", "BODYPATH", "lit", ""], ["a", "b"], 0) := by decide +kernel
      obtain ⟨⟨_, _, _, _, _, _, _⟩, parsed, same⟩ := Option.map_eq_some_iff.mp fields
      simp only [Prod.mk.injEq, List.cons.injEq, List.length_eq_zero_iff] at same
      obtain ⟨⟨rfl, rfl, rfl, rfl, rfl, -⟩, rfl, rfl⟩ := same
      exact parsed
    have alone : Path.directory? "c" = none := by decide +kernel
    simp only [SiteConfig.load, source, parsed, alone]
  obtain ⟨pages, keeps, grows⟩ := build_page_by_page config ["a", "b"]
  obtain ⟨before, page, after, reached, parts, earlier, -, unwritten, length⟩ :=
    (pages files).stops _ _ built
  refine ⟨built, ?_, ⟨before, page, after, reached, parts, earlier, grows unwritten, ?_⟩, loaded,
    ?_⟩
  · have kept := keeps files
    rw [built] at kept
    exact kept.written outputs fun _ member => absurd member List.not_mem_nil
  · rw [← length, outputs]
    rfl
  · rw [((pages files).reported "c" loaded).2, built]

end SiteConfig
end LiteratePages
