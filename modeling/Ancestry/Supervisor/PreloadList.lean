import Ancestry.Diagnostics
import Ancestry.Failure
import Ancestry.Text.Quoted
import Ancestry.System.World

/-!
# The preload list

The loader reads a file of libraries that every program gets. Its entries are the words
of the file. Adding a library never touches an entry that is there: a line is put at the
end, after a newline if the last line has none. A library whose path is no text, or that
would be more than one word, cannot be listed.
-/
namespace Ancestry.PreloadList

def source : String := "pidtrack::install"

/-- The libraries listed in a file. -/
def entries (content : List Char) : List (List Char) := Text.words content

/-- What is added to a list for a library. -/
def addition (content entry : List Char) : List Char :=
  (if content ≠ [] && content.getLast? ≠ some '\n' then ['\n'] else []) ++ entry ++ ['\n']

/-- The path of a library as an entry. -/
def entryOf (library : Bytes) : Except Failure (List Char) :=
  match Utf8.decode library with
  | .error _ =>
    .error (.ofCause (.message s!"Library path {Utf8.lossy library} is not valid UTF-8"))
  | .ok entry =>
    if entry.any Text.isBlank then
      .error (.ofCause (.message s!"Library path {Text.quoted entry} contains whitespace"))
    else .ok entry

/-- The list at a path; a file that is missing lists nothing. -/
def load (w : World) (path : Bytes) : Except Failure (List Char) :=
  match w.readText path with
  | .ok content => .ok content
  | .error (.system .notFound) => .ok []
  | .error e => .error ⟨[s!"Failed to read {Utf8.lossy path}"], .io e⟩

/-- Puts bytes at the end of the file at a path, which is made if need be. -/
def extend (w : World) (path bytes : Bytes) : Except IoError Unit × World :=
  match w.openOrCreate path with
  | .error e => (.error e, w)
  | .ok (loc, w) =>
    match w.append loc none bytes with
    | (.error e, w) => (.error (.system e), w)
    | (.ok _, w) => (.ok (), w)

/-- Lists a library unless it is listed: whether the file was changed, the world, and
what was reported. -/
def ensure (w : World) (path library : Bytes) : Except Failure Bool × World × List Record :=
  match entryOf library with
  | .error f => (.error f, w, [])
  | .ok entry =>
    match load w path with
    | .error f => (.error f, w, [])
    | .ok content =>
      if entry ∈ entries content then (.ok false, w, [])
      else
        match extend w path (Utf8.encode (addition content entry)) with
        | (.error e, w) => (.error ⟨[s!"Failed to write {Utf8.lossy path}"], .io e⟩, w, [])
        | (.ok (), w) =>
          let text := s!"Added {String.ofList entry} to {Utf8.lossy path}"
          (.ok true, w, [⟨.info, source, text⟩])

end Ancestry.PreloadList
