import Ancestry.System.Path

/-!
# The world a process lives in

Files, a working directory, and the sockets that listen. A listening socket has an
endpoint of its own; the entry in the file system only names it, so it can be removed
while the listener goes on, and it can stay when the listener is gone. What arrives at
an endpoint is kept as one payload for each connection, in the order of arrival.

Each operation says what it changes by the world it returns. A path that contains a
zero byte is refused before the system is asked.

Processes are privileged: there are no users here, permission bits are kept but stop
nobody, and a write leaves them as they are. What stops even a privileged process, such as
a file system that is mounted to be read only, a file that must not be changed, no space
for another entry or no descriptor left, is an obstacle of the world.
-/
namespace Ancestry

/-- One connection to an endpoint and all it carried. -/
structure Delivery where
  endpoint : Nat
  payload : Bytes
  deriving Repr, DecidableEq

/-- What the system may refuse to do at a place. -/
inductive Access
  /-- To open what is there to be written, or to be made. -/
  | write
  /-- To make or to remove an entry. -/
  | entry
  /-- To make a file. -/
  | file
  /-- To make a socket. At the root, to have a socket at all. -/
  | socket
  /-- To change the permission bits. -/
  | mode
  deriving Repr, DecidableEq

/-- Something that is refused at a place and everywhere below it. -/
structure Obstacle where
  access : Access
  place : Location
  error : SystemError
  deriving Repr, DecidableEq

structure World where
  files : FileSystem
  directory : Location
  /-- The endpoints that accept connections. -/
  listening : List Nat
  /-- The number of endpoints made so far; the next one gets it. -/
  endpoints : Nat
  deliveries : List Delivery
  /-- What the system refuses. No process can change that. -/
  obstacles : List Obstacle
  deriving Repr, DecidableEq

namespace World

/-- Why one of some things cannot be done at a place. -/
def refusal? (w : World) (accesses : List Access) (loc : Location) : Option SystemError :=
  (w.obstacles.find? fun o => o.access ∈ accesses && o.place.isPrefixOf loc).map (·.error)

/-- Who may do several things at a place may do each of them. -/
theorem refusal?_mono {w : World} {accesses more : List Access} {loc : Location}
    (free : w.refusal? more loc = none) (fewer : accesses ⊆ more) :
    w.refusal? accesses loc = none := by
  simp only [refusal?, Option.map_eq_none_iff, List.find?_eq_none, Bool.and_eq_true,
    decide_eq_true_eq, not_and] at free ⊢
  exact fun o present access => free o present (fewer access)

/-- The permission bits a new entry keeps. -/
def umasked (mode : Nat) : Nat := mode &&& 0o755

def hasNul (path : Bytes) : Bool := path.contains 0

/-- What a path leads to, if anything. -/
def find (w : World) (last : LastLink) (path : Bytes) : Except SystemError (Location × Node) :=
  match w.files.resolve w.directory last path with
  | .ok (.found loc node) => .ok (loc, node)
  | .ok (.free ..) => .error .notFound
  | .error e => .error e

/-- The entry a path leads to, links followed. -/
def status (w : World) (path : Bytes) : Except IoError (Location × Node) :=
  if hasNul path then .error .nulInPath
  else
    match w.find .follow path with
    | .ok r => .ok r
    | .error e => .error (.system e)

def pathExists (w : World) (path : Bytes) : Bool :=
  match w.status path with
  | .ok _ => true
  | .error _ => false

/-- Whether a path leads to a regular file. -/
def isFile (w : World) (path : Bytes) : Bool :=
  match w.status path with
  | .ok (_, node) => node.isFile
  | .error _ => false

/-- Only a directory refuses to be written, and only a socket to be opened at all. -/
def refusesWriting : Node → Option SystemError
  | .directory _ => some .isDirectory
  | .socket .. => some .noSuchDevice
  | _ => none

/-- Why what is at a place cannot be opened to be written. -/
def unwritable? (w : World) (loc : Location) (node : Node) : Option SystemError :=
  (refusesWriting node).or (w.refusal? [.write] loc)

@[simp] theorem unwritable?_eq_none {w : World} {loc : Location} {node : Node} :
    w.unwritable? loc node = none ↔
      refusesWriting node = none ∧ w.refusal? [.write] loc = none := by
  rw [unwritable?, Option.or_eq_none_iff]

/-- Opens an existing file for appending. -/
def openAppend (w : World) (path : Bytes) : Except IoError Location :=
  match w.status path with
  | .error e => .error e
  | .ok (loc, node) =>
    match w.unwritable? loc node with
    | some e => .error (.system e)
    | none => .ok loc

theorem openAppend_eq_ok {w : World} {path : Bytes} {loc : Location} :
    w.openAppend path = .ok loc ↔
      ∃ node, w.status path = .ok (loc, node) ∧ w.unwritable? loc node = none := by
  unfold openAppend
  cases w.status path with
  | error e => simp
  | ok entry =>
    obtain ⟨place, node⟩ := entry
    cases refused : w.unwritable? place node with
    | some e =>
      simp only [refused, reduceCtorEq, Except.ok.injEq, Prod.mk.injEq, false_iff]
      rintro ⟨_, ⟨rfl, rfl⟩, free⟩
      rw [refused] at free
      cases free
    | none =>
      simp only [refused, Except.ok.injEq, Prod.mk.injEq]
      constructor
      · rintro rfl
        exact ⟨node, ⟨rfl, rfl⟩, refused⟩
      · rintro ⟨_, ⟨same, -⟩, -⟩
        exact same

/-- Opens a file for appending and makes it if the name is free. -/
def openOrCreate (w : World) (path : Bytes) : Except IoError (Location × World) :=
  if hasNul path then .error .nulInPath
  else
    match w.files.locate w.directory .create path with
    | .error e => .error (.system e)
    | .ok (.found loc node) =>
      match w.unwritable? loc node with
      | some e => .error (.system e)
      | none => .ok (loc, w)
    | .ok (.free directory name) =>
      let loc := directory ++ [name]
      match w.refusal? [.write, .entry, .file] loc with
      | some e => .error (.system e)
      | none => .ok (loc, { w with files := w.files.set loc (.file (umasked 0o666) []) })

/-- How much of some bytes a file of a given size still takes. A file may not grow past
the limit; at the limit not even one byte is taken and the write fails. The signal that the
system sends along with this failure is ignored by the process, which would end otherwise. -/
def room (limit : Option Nat) (size : Nat) (bytes : Bytes) : Except SystemError Bytes :=
  match limit with
  | none => .ok bytes
  | some most => if most ≤ size then .error .fileTooLarge else .ok (bytes.take (most - size))

/-- One write at the end of an open file: how many bytes were taken, and the world. What is
written to a special file is gone. -/
def append (w : World) (loc : Location) (limit : Option Nat) (bytes : Bytes) :
    Except SystemError Nat × World :=
  match w.files.get? loc with
  | some (.file mode content) =>
    match room limit content.length bytes with
    | .error e => (.error e, w)
    | .ok taken =>
      (.ok taken.length, { w with files := w.files.set loc (.file mode (content ++ taken)) })
  | some (.special _ kind) =>
    match kind.refusal with
    | some e => (.error e, w)
    | none => (.ok bytes.length, w)
  | _ => (.error .invalidArgument, w)

/-- Opens a file for reading. A directory can be opened. -/
def openRead (w : World) (path : Bytes) : Except IoError Node :=
  match w.status path with
  | .error e => .error e
  | .ok (_, .socket ..) => .error (.system .noSuchDevice)
  | .ok (_, node) => .ok node

/-- All that can be read from an open file. What has no end is more than there is room for. -/
def contentOf : Node → Except IoError Bytes
  | .file _ content => .ok content
  | .directory _ => .error (.system .isDirectory)
  | .special _ ⟨some supply, _⟩ => .ok supply
  | .special _ ⟨none, _⟩ => .error .outOfMemory
  | .symlink _ | .socket .. => .error (.system .invalidArgument)

def read (w : World) (path : Bytes) : Except IoError Bytes :=
  match w.openRead path with
  | .error e => .error e
  | .ok node => contentOf node

/-- Reads a file that has to be text. -/
def readText (w : World) (path : Bytes) : Except IoError (List Char) :=
  match w.read path with
  | .error e => .error e
  | .ok bytes =>
    match Utf8.decode bytes with
    | .ok cs => .ok cs
    | .error _ => .error .malformedText

def setMode (w : World) (path : Bytes) (mode : Nat) : Except IoError World :=
  match w.status path with
  | .error e => .error e
  | .ok (loc, node) =>
    match w.refusal? [.mode] loc with
    | some e => .error (.system e)
    | none => .ok { w with files := w.files.set loc (node.withMode mode) }

/-- Removes an entry that is no directory; a link goes, not what it leads to. Only a
directory may be named with a slash at the end. -/
def unlink (w : World) (path : Bytes) : Except IoError World :=
  if hasNul path then .error .nulInPath
  else
    match w.files.locate w.directory .keep path with
    | .error e => .error (.system e)
    | .ok (.free ..) => .error (.system .notFound)
    | .ok (.found _ (.directory _)) => .error (.system .isDirectory)
    | .ok (.found loc _) =>
      if Path.endsInSlash path then .error (.system .notDirectory)
      else
        match w.refusal? [.entry] loc with
        | some e => .error (.system e)
        | none => .ok { w with files := w.files.remove loc }

/-- The bytes a socket path may have, the final zero byte included. -/
def socketPathRoom : Nat := 108

/-- A new endpoint that listens. -/
def listen (w : World) : Nat × World :=
  (w.endpoints,
    { w with endpoints := w.endpoints + 1, listening := w.endpoints :: w.listening })

/-- Binds a new socket, which listens, to a free path. -/
def bindAt (w : World) (path : Bytes) : Except SystemError (Nat × World) :=
  match w.files.locate w.directory .keep path with
  | .error e => .error e
  | .ok (.found ..) => .error .addressInUse
  | .ok (.free directory name) =>
    if Path.endsInSlash path then .error .notFound
    else
      let loc := directory ++ [name]
      match w.refusal? [.entry, .socket] loc with
      | some e => .error e
      | none =>
        let (endpoint, w) := w.listen
        .ok (endpoint, { w with files := w.files.set loc (.socket (umasked 0o777) endpoint) })

/-- Makes a socket and binds it. The empty path names nothing, and the socket is then bound
without an entry. -/
def bind (w : World) (path : Bytes) : Except IoError (Nat × World) :=
  if hasNul path then .error .nulInSocketPath
  else if socketPathRoom ≤ path.length then .error .socketPathTooLong
  else
    match w.refusal? [.socket] [] with
    | some e => .error (.system e)
    | none =>
      if path = [] then .ok w.listen
      else
        match w.bindAt path with
        | .error e => .error (.system e)
        | .ok bound => .ok bound

/-- An endpoint stops to accept; its entry in the file system stays. -/
def close (w : World) (endpoint : Nat) : World :=
  { w with listening := w.listening.filter (· ≠ endpoint) }

/-- The endpoint behind a path, if one listens there. -/
def connect (w : World) (path : Bytes) : Except SystemError Nat :=
  match w.find .follow path with
  | .error e => .error e
  | .ok (_, .socket _ endpoint) =>
    if endpoint ∈ w.listening then .ok endpoint else .error .connectionRefused
  | .ok _ => .error .connectionRefused

/-- One connection to an endpoint, closed after its payload. -/
def deliver (w : World) (endpoint : Nat) (payload : Bytes) : World :=
  { w with deliveries := w.deliveries ++ [⟨endpoint, payload⟩] }

end World
end Ancestry
