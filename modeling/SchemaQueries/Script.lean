import SchemaQueries.Event
import SchemaQueries.FileSystem.Basic
import SchemaQueries.Network.Exchange

/-!
# Scripts

A run is a script: it asks the world around it for one thing after the other, and goes on with what
it gets. What the world is, a script does not know; a `World` is a model of it.

## Main definitions

* `Action` — something that a script asks for, with the type of what it gets.
* `Script` — a run, up to its result.
* `World`, `World.perform` — files, standard input and an endpoint, and how they answer.
* `Script.run` — a script in a world.

## Main results

* `Script.run_bind` — one script after the other.
-/

set_option autoImplicit false
set_option relaxedAutoImplicit false

namespace SchemaQueries

/-- Why the first line of a file cannot be had. -/
inductive LineError where
  | opening (e : SystemError)
  | reading (e : SystemError)
  deriving DecidableEq, Repr

/-- Something that a script asks for. -/
inductive Action where
  | pathExists (path : String)
  | readFile (path : String)
  /-- The first line of a file, the line feed at its end included. -/
  | readFirstLine (path : String)
  | createDirectory (path : String)
  /-- Empties a file. -/
  | truncateFile (path : String)
  /-- Creates an empty file where nothing is. -/
  | createFile (path : String)
  | writeFile (path : String) (content : Bytes)
  | readInput
  /-- Sends a text to an address. -/
  | post (url : Network.Url) (body : String)
  | report (event : Event)
  deriving DecidableEq, Repr

/-- What a script gets. -/
@[reducible] def Action.Result : Action → Type
  | pathExists _ => Bool
  | readFile _ => Except SystemError Bytes
  | readFirstLine _ => Except LineError Bytes
  | createDirectory _ => Except SystemError Unit
  | truncateFile _ => Except SystemError Unit
  | createFile _ => Except SystemError Unit
  | writeFile _ _ => Except SystemError Unit
  | readInput => Except SystemError Bytes
  | post _ _ => Network.Outcome
  | report _ => Unit

/-- A run: it is done, or asks for something and goes on with what it gets. -/
inductive Script (α : Type) where
  | done (a : α)
  | ask (action : Action) (next : action.Result → Script α)

namespace Script

variable {α β ε ε' : Type}

/-- One script, and then the one that its result chooses. -/
def bind : Script α → (α → Script β) → Script β
  | done a, f => f a
  | ask action next, f => ask action fun x => (next x).bind f

instance : Monad Script where
  pure := done
  bind := bind

/-- Asks for one thing. -/
def perform (action : Action) : Script action.Result :=
  ask action done

/-- A script whose failure is put in other words. -/
def orFail (script : Script (Except ε α)) (reason : ε → ε') : ExceptT ε' Script α :=
  ExceptT.mk (script.bind fun result => done (result.mapError reason))

/-- A result that is there without asking, with its failure put in other words. -/
def known (result : Except ε α) (reason : ε → ε') : ExceptT ε' Script α :=
  ExceptT.mk (done (result.mapError reason))

end Script

/-! ### Worlds -/

/-- A model of what is around a run. -/
structure World where
  files : FileSystem
  input : Bytes
  /-- What comes of sending a text to an address. -/
  endpoint : Network.Url → String → Network.Outcome
  /-- What has been reported. -/
  events : List Event

namespace World

/-- Changes the files, unless that fails. -/
def change (w : World) (result : Except SystemError FileSystem) :
    Except SystemError Unit × World :=
  match result with
  | .ok files => (.ok (), { w with files })
  | .error e => (.error e, w)

/-- The first line of a file. -/
def firstLine (w : World) (path : String) : Except LineError Bytes :=
  match w.files.lookup path with
  | .error e => .error (.opening e)
  | .ok node => (node.content.map Bytes.firstLine).mapError .reading

/-- What a world gives, and how it is afterwards. -/
def perform (w : World) : (action : Action) → action.Result × World
  | .pathExists path => (w.files.has path, w)
  | .readFile path => (w.files.read path, w)
  | .readFirstLine path => (w.firstLine path, w)
  | .createDirectory path => w.change (w.files.createDirectory path)
  | .truncateFile path => w.change (w.files.truncate path)
  | .createFile path => w.change (w.files.createNew path)
  | .writeFile path content => w.change (w.files.write path content)
  | .readInput => (.ok w.input, w)
  | .post url body => (w.endpoint url body, w)
  | .report event => ((), { w with events := w.events ++ [event] })

end World

namespace Script

variable {α β : Type}

/-- The result of a script in a world, and the world afterwards. -/
def run : Script α → World → α × World
  | done a, w => (a, w)
  | ask action next, w =>
    let (x, w) := w.perform action
    (next x).run w

/-- A script that is followed by another one runs first. -/
theorem run_bind (script : Script α) (f : α → Script β) (w : World) :
    (script.bind f).run w = (f (script.run w).1).run (script.run w).2 := by
  induction script generalizing w with
  | done a => rfl
  | ask action next ih => exact ih _ _

end Script

end SchemaQueries
