import InlineCompletion.Ghost.Decoration

/-!
The editor that hosts a session. A session reads the document and the cursor, draws and removes
decorations, inserts text and shows notices; it does nothing else to its host. What it asks for is
kept in a log.
-/
namespace InlineCompletion.Ghost

/-- Names a decoration that the host has drawn. -/
abbrev Handle := Nat

/-- How grave a notice is. -/
inductive NoticeLevel where
  | info
  | warning
  | error
deriving Repr, DecidableEq

/-- The name of a level. -/
def NoticeLevel.name : NoticeLevel → String
  | .info => "Info"
  | .warning => "Warning"
  | .error => "Error"

/-- The levels by their names. -/
def NoticeLevel.variants : List (String × NoticeLevel) :=
  [("Info", .info), ("Warning", .warning), ("Error", .error)]

/-- The document of the editor and its cursor, which counts characters. -/
structure EditorView where
  document : String
  cursor : Nat
deriving Repr, DecidableEq

/-- What a host does, for any kind `σ` of state that it keeps. -/
structure Host (σ : Type) where
  /-- The document and the cursor, if there is an editor. -/
  view : σ → Option EditorView
  /-- Draws a decoration and names it. -/
  create : σ → GhostText → DecorationSpec → Handle × σ
  /-- Removes a decoration. -/
  dispose : σ → Handle → σ
  /-- Inserts a text at an offset, or says why it does not. -/
  insert : σ → Nat → String → Except String Unit × σ
  /-- Shows a notice of one line. -/
  notify : σ → NoticeLevel → String → σ

/-- Something a session has asked its host for. -/
inductive SinkCall where
  | create (handle : Handle) (ghost : GhostText) (spec : DecorationSpec)
  | dispose (handle : Handle)
  | insert (offset : Nat) (text : String)
  | notice (level : NoticeLevel) (message : String)
deriving Repr, DecidableEq

/-- A host with its state and all it was asked for, in order. -/
structure Sink (σ : Type) where
  host : Host σ
  state : σ
  log : List SinkCall

namespace Sink
variable {σ : Type}

/-- The document and the cursor, if there is an editor. -/
def view (s : Sink σ) : Option EditorView :=
  s.host.view s.state

/-- Draws a decoration. -/
def create (s : Sink σ) (ghost : GhostText) (spec : DecorationSpec) : Handle × Sink σ :=
  let (handle, state) := s.host.create s.state ghost spec
  (handle, { s with state, log := s.log ++ [.create handle ghost spec] })

/-- Removes a decoration. -/
def dispose (s : Sink σ) (handle : Handle) : Sink σ :=
  { s with state := s.host.dispose s.state handle, log := s.log ++ [.dispose handle] }

/-- Inserts a text, or says why that fails. -/
def insert (s : Sink σ) (offset : Nat) (text : String) : Except String Unit × Sink σ :=
  let (result, state) := s.host.insert s.state offset text
  (result, { s with state, log := s.log ++ [.insert offset text] })

/-- Shows a notice. -/
def notify (s : Sink σ) (level : NoticeLevel) (message : String) : Sink σ :=
  { s with state := s.host.notify s.state level message, log := s.log ++ [.notice level message] }

end Sink

/-- An editor kept in memory. -/
structure MemoryEditor where
  view : Option EditorView
  /-- The reason with which insertions are refused, if they are. -/
  refusal : Option String
  /-- Number of decorations drawn so far. -/
  drawn : Nat

/-- A document with a text put in at an offset, and the cursor behind that text. -/
def EditorView.insert (v : EditorView) (offset : Nat) (text : String) : EditorView :=
  let (before, after) := v.document.toList.splitAt offset
  ⟨.ofList (before ++ text.toList ++ after), offset + text.toList.length⟩

/-- An editor in memory as a host. Decorations are named by numbers from one on; an offset behind
the end of the document is refused. -/
def MemoryEditor.host : Host MemoryEditor where
  view e := e.view
  create e _ _ := (e.drawn + 1, { e with drawn := e.drawn + 1 })
  dispose e _ := e
  insert e offset text :=
    match e.refusal, e.view with
    | some reason, _ => (.error reason, e)
    | none, some view =>
      if offset ≤ view.document.toList.length then
        (.ok (), { e with view := some (view.insert offset text) })
      else (.error ("offset " ++ offset.repr ++ " out of range"), e)
    | none, none => (.error ("offset " ++ offset.repr ++ " out of range"), e)
  notify e _ _ := e

/-- A session's editor in memory, with nothing logged yet. -/
def MemoryEditor.sink (e : MemoryEditor) : Sink MemoryEditor :=
  ⟨host, e, []⟩

end InlineCompletion.Ghost
