import LiteratePages.Proofs.Template.CountedEngine

namespace LiteratePages

/-- The counter after an event that the counter `count` came before. -/
def Event.counterAfter (event : Event) (count : Nat) : Nat :=
  match event with
  | .entered _ => count + 1
  | .left _ => count - 1
  | _ => count

/-- The moments that the events of a journal are. -/
def momentsFrom (count : Nat) : Journal → List Moment
  | [] => []
  | event :: rest =>
      ⟨event, event.counterAfter count⟩ :: momentsFrom (event.counterAfter count) rest

theorem Trace.momentsFrom_append {bound count : Nat} {moments : List Moment}
    (trace : Trace bound count moments) (others : Journal) :
    momentsFrom count (moments.map Moment.event ++ others) =
      moments ++ momentsFrom count others := by
  induction trace generalizing others with
  | done count => rfl
  | ran code _ ih => exact congrArg (_ :: ·) (ih others)
  | refused path _ _ ih => exact congrArg (_ :: ·) (ih others)
  | @nested count inside rest path room inner later inward onward =>
      have left := inward (.left path :: (rest.map Moment.event ++ others))
      rw [momentsFrom] at left
      simp [momentsFrom, Event.counterAfter] at left ⊢
      rw [left, onward others]

theorem Trace.eq_of_events {bound count : Nat} {moments others : List Moment}
    (first : Trace bound count moments) (second : Trace bound count others)
    (same : moments.map Moment.event = others.map Moment.event) : moments = others := by
  have left := first.momentsFrom_append []
  have right := second.momentsFrom_append []
  rw [same] at left
  simpa [momentsFrom] using left.symm.trans right

/-- The templates that are open after an event, the innermost first, when `opened` were before. -/
def Event.frames (event : Event) (opened : List String) : List String :=
  match event with
  | .entered path => path :: opened
  | .left _ => opened.tail
  | _ => opened

def framesAfter (opened : List String) : List Moment → List String
  | [] => opened
  | moment :: rest => framesAfter (moment.event.frames opened) rest

/-- What holds at a moment before which `opened` are open and after which comes `next`. -/
structure Moment.Sound (bound : Nat) (opened : List String) (moment : Moment)
    (next : Option Moment) : Prop where
  counter : moment.counter = (moment.event.frames opened).length
  within : moment.counter ≤ bound
  entered : ∀ path, moment.event = .entered path →
    opened.length < bound ∧ next = some ⟨.read path, moment.counter⟩
  read : ∀ path, moment.event = .read path → opened.head? = some path
  left : ∀ path, moment.event = .left path → opened.head? = some path
  refused : ∀ path, moment.event = .refused path → opened.length = bound

def SoundFrom (bound : Nat) (opened : List String) : List Moment → Prop
  | [] => True
  | moment :: rest => moment.Sound bound opened rest.head? ∧
      SoundFrom bound (moment.event.frames opened) rest

theorem SoundFrom.at {bound : Nat} {opened : List String} {before after : List Moment}
    {moment : Moment} (sound : SoundFrom bound opened (before ++ moment :: after)) :
    moment.Sound bound (framesAfter opened before) after.head? := by
  induction before generalizing opened with
  | nil => exact sound.1
  | cons earlier rest ih => exact ih sound.2

theorem Trace.soundFrom {bound count : Nat} {moments others : List Moment} {opened : List String}
    (trace : Trace bound count moments) (length : opened.length = count) (within : count ≤ bound)
    (later : SoundFrom bound opened others) : SoundFrom bound opened (moments ++ others) := by
  induction trace generalizing opened others with
  | done count => exact later
  | ran code _ ih =>
      refine ⟨?_, ih length within later⟩
      exact ⟨length.symm, within, nofun, nofun, nofun, nofun⟩
  | refused path full _ ih =>
      refine ⟨?_, ih length within later⟩
      refine ⟨length.symm, within, nofun, nofun, nofun, fun _ _ => ?_⟩
      rw [length]
      exact Nat.le_antisymm within full
  | @nested count inside rest path room _ _ inward onward =>
      have deeper : (path :: opened).length = count + 1 := congrArg (· + 1) length
      have space : opened.length < bound := by rwa [length]
      -- From the end to the start: the moments of the template lie between its reading and leaving.
      have closing : SoundFrom bound (path :: opened) (⟨.left path, count⟩ :: (rest ++ others)) :=
        ⟨⟨length.symm, within, nofun, nofun, by rintro _ ⟨⟩; rfl, nofun⟩,
          onward length within later⟩
      have reading : SoundFrom bound (path :: opened) (⟨.read path, count + 1⟩ ::
          (inside ++ ⟨.left path, count⟩ :: (rest ++ others))) :=
        ⟨⟨deeper.symm, room, nofun, by rintro _ ⟨⟩; rfl, nofun, nofun⟩, inward deeper room closing⟩
      have entering : SoundFrom bound opened
          (⟨.entered path, count + 1⟩ :: ⟨.read path, count + 1⟩ ::
            (inside ++ ⟨.left path, count⟩ :: (rest ++ others))) :=
        ⟨⟨deeper.symm, room, by rintro _ ⟨⟩; exact ⟨space, rfl⟩, nofun, nofun, nofun⟩, reading⟩
      simpa using entering

section

variable {engine : Engine} {server : Server} {count : Nat}

/-- With the counter at `count`, the server renders as the engine does where as many templates fewer
may be opened. -/
def ServerFollows (engine : Engine) (count : Nat) (server : Server) : Prop :=
  ∀ path data, Follows engine.maxNesting count
    (engine.renderWithin (engine.maxNesting - count) path data).1
    (engine.renderWithin (engine.maxNesting - count) path data).2 (server path data)

theorem serverFollows_serve (interprets : engine.executor = interpret)
    (inside : count < engine.maxNesting → ServerFollows engine (count + 1) server) :
    ServerFollows engine count (engine.serve server) := by
  intro path data
  rcases Nat.lt_or_ge count engine.maxNesting with room | full
  · obtain ⟨levels, fewer⟩ : ∃ levels, engine.maxNesting - count = levels + 1 :=
      ⟨engine.maxNesting - (count + 1), by omega⟩
    have remaining : engine.maxNesting - (count + 1) = levels := by omega
    have nested := inside room
    unfold ServerFollows at nested
    rw [remaining] at nested
    have agrees := executorFollows_interpret (hostFollows_templateHost nested)
    obtain ⟨journal, noted, moments, filled, events, trace⟩ :=
      follows_fillFile agrees engine path data
    rw [fewer, Engine.renderWithin, interprets]
    refine ⟨_, serve_room room filled, ?_, .nested path room trace (.done count)⟩
    simp [noted, events]
  · rw [Nat.sub_eq_zero_of_le full]
    exact ⟨_, serve_full full path data, rfl, .refused path full (.done count)⟩

theorem serverFollows_of_serve_eq (interprets : engine.executor = interpret)
    (solves : engine.serve server = server) (count : Nat) : ServerFollows engine count server := by
  rw [← solves]
  apply serverFollows_serve interprets
  intro room
  exact serverFollows_of_serve_eq interprets solves (count + 1)
-- The induction is on how many more templates may be opened.
termination_by engine.maxNesting - count

/-- The server that serves each call once more for every level that it is given. -/
def Engine.serviceWithin (engine : Engine) : (levels : Nat) → Server
  | 0 => fun path _ => return .error (.nestingTooDeep 0 path)
  | levels + 1 => engine.serve (serviceWithin engine levels)

theorem serverFollows_serviceWithin (interprets : engine.executor = interpret) {levels : Nat}
    (below : engine.maxNesting - count < levels) :
    ServerFollows engine count (engine.serviceWithin levels) := by
  induction levels generalizing count with
  | zero => exact absurd below (Nat.not_lt_zero _)
  | succ levels ih =>
      -- Serving once more is right for templates with one more level below them.
      refine serverFollows_serve interprets fun room => ih ?_
      omega

/-- The server of an engine: as many levels as can be open, and one to refuse the next. -/
def Engine.service (engine : Engine) : Server := engine.serviceWithin (engine.maxNesting + 1)

theorem serverFollows_service (interprets : engine.executor = interpret) (count : Nat) :
    ServerFollows engine count engine.service :=
  serverFollows_serviceWithin interprets (Nat.lt_succ_of_le (Nat.sub_le ..))

theorem exists_serverFollows (interprets : engine.executor = interpret) (levels : Nat) :
    ∃ server, ∀ count, engine.maxNesting - count < levels → ServerFollows engine count server :=
  ⟨engine.serviceWithin levels, fun _ below => serverFollows_serviceWithin interprets below⟩

theorem server_eq_of_follows {other : Server} (first : ∀ count, ServerFollows engine count server)
    (second : ∀ count, ServerFollows engine count other) : server = other := by
  funext path data count
  obtain ⟨moments, served, events, trace⟩ := first count path data
  obtain ⟨others, otherServed, otherEvents, otherTrace⟩ := second count path data
  rw [served, otherServed, trace.eq_of_events otherTrace (events.trans otherEvents.symm)]

/-- What the server renders inside a template it renders by itself. -/
theorem Engine.serve_service (interprets : engine.executor = interpret) :
    engine.serve engine.service = engine.service :=
  have follows := serverFollows_service interprets
  server_eq_of_follows
    (fun count => serverFollows_serve interprets fun _ => follows (count + 1)) follows

end

/-- What an engine is asked for from outside. -/
inductive Call where
  | file (path : String) (data : Metadata)
  | text (body : String) (data : Metadata)

def Call.rendered (engine : Engine) : Call → Rendered
  | .file path data => engine.render path data
  | .text body data => engine.renderText body data

def Call.on (server : Server) : Call → Counting (Except PageError String)
  | .file path data => server path data
  | .text body data => fillCounted (interpretCounted server.host) "<string>" body data

/-- Calls one after the other, each with the counter as the one before leaves it. -/
def runCalls (server : Server) : List Call → Counting (List (Except PageError String))
  | [] => return []
  | call :: rest => do
      let result ← call.on server
      let results ← runCalls server rest
      return result :: results

section

variable {engine : Engine} {server : Server}

theorem follows_call (interprets : engine.executor = interpret)
    (follows : ∀ count, ServerFollows engine count server) (call : Call) (count : Nat) :
    ∃ rendered : Rendered,
      Follows engine.maxNesting count rendered.1 rendered.2 (call.on server) ∧
        (count = 0 → rendered = call.rendered engine) := by
  cases call with
  | file path data =>
      refine ⟨_, follows count path data, ?_⟩
      rintro rfl
      rfl
  | text body data =>
      have agrees := executorFollows_interpret (hostFollows_templateHost (follows count))
      rw [← interprets] at agrees
      refine ⟨_, follows_fill agrees "<string>" body data, ?_⟩
      rintro rfl
      rfl

theorem follows_call_fresh (interprets : engine.executor = interpret)
    (follows : ∀ count, ServerFollows engine count server) (call : Call) :
    Follows engine.maxNesting 0 (call.rendered engine).1 (call.rendered engine).2
      (call.on server) := by
  obtain ⟨rendered, called, same⟩ := follows_call interprets follows call 0
  rwa [same rfl] at called

theorem follows_runCalls (interprets : engine.executor = interpret)
    (follows : ∀ count, ServerFollows engine count server) (calls : List Call) :
    Follows engine.maxNesting 0 (calls.map fun call => (call.rendered engine).1)
      (calls.flatMap fun call => (call.rendered engine).2) (runCalls server calls) := by
  induction calls with
  | nil => exact follows_pure _
  | cons call rest ih => exact (follows_call_fresh interprets follows call).bind (ih.map _)

end

/-- There is one way to render templates beside a shared counter, and it is as follows. Every call,
from outside or from inside a template, leaves the counter as it was before; it is refused, and its
file not read, when as many templates are open as may be. In any sequence of calls, the counter is
at every moment the number of open templates and within the bound, and each call gives what it gives
on an engine that nothing was asked before. -/
theorem exists_server_counting (files : Texts) (extension : String) (bound : Nat) :
    let engine : Engine := ⟨files, extension, bound, interpret⟩
    ∃ server, engine.serve server = server ∧
      (∀ other, engine.serve other = other → other = server) ∧
      (∀ (call : Call) (count : Nat), (call.on server count).2.2 = count) ∧
      (∀ path data count, bound ≤ count → server path data count =
        (.error (.nestingTooDeep bound path), [⟨.refused path, count⟩], count)) ∧
      (∀ call : Call, (call.on server 0).1 = (call.rendered engine).1) ∧
      ∀ calls : List Call, ∃ moments,
        runCalls server calls 0 = (calls.map fun call => (call.on server 0).1, moments, 0) ∧
        moments.map Moment.event = (calls.flatMap fun call => (call.rendered engine).2) ∧
        ∀ before moment after, moments = before ++ moment :: after →
          moment.Sound bound (framesAfter [] before) after.head? := by
  intro engine
  have interprets : engine.executor = interpret := rfl
  obtain ⟨server, below⟩ := exists_serverFollows interprets (bound + 1)
  have follows : ∀ count, ServerFollows engine count server :=
    fun count => below count (Nat.lt_succ_of_le (Nat.sub_le bound count))
  -- A server that follows the engine at every counter is the only one, so that serving once more
  -- gives the same.
  have solves : engine.serve server = server := by
    apply server_eq_of_follows _ follows
    exact fun count => serverFollows_serve interprets fun _ => follows (count + 1)
  have fresh : ∀ call : Call, (call.on server 0).1 = (call.rendered engine).1 := by
    intro call
    obtain ⟨moments, called, _⟩ := follows_call_fresh interprets follows call
    rw [called]
  refine ⟨server, solves, ?_, ?_, ?_, fresh, ?_⟩
  · intro other otherSolves
    exact server_eq_of_follows (serverFollows_of_serve_eq interprets otherSolves) follows
  · intro call count
    obtain ⟨rendered, ⟨moments, called, _⟩, _⟩ := follows_call interprets follows call count
    rw [called]
  · intro path data count full
    rw [← solves]
    exact serve_full full path data
  · intro calls
    obtain ⟨moments, ran, events, trace⟩ := follows_runCalls interprets follows calls
    refine ⟨moments, ?_, events, ?_⟩
    · rw [ran, List.map_congr_left fun call _ => fresh call]
    · rintro before moment after rfl
      have sound : SoundFrom bound [] (before ++ moment :: after ++ []) :=
        trace.soundFrom rfl (Nat.zero_le bound) trivial
      rw [List.append_nil] at sound
      exact sound.at

end LiteratePages
