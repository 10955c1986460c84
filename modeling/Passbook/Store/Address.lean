import Passbook.Failure
import Passbook.Text.Utf8
/-! Addresses of stores: in memory, in a file, or on a database server. -/
namespace Passbook

inductive StoreAddress where
  | memory
  | file (path : String)
  | server (url : String)
deriving DecidableEq, Repr

namespace StoreAddress

def dialect : StoreAddress → String
  | .memory | .file _ => "sqlite"
  | .server _ => "postgresql"

private def after? (start url : String) : Option String :=
  if start.toList.isPrefixOf url.toList then some (String.ofList (url.toList.drop start.length)) else none

def ofUrl (url : String) : Except AddressFault StoreAddress :=
  if url = "sqlite://" ∨ url = "sqlite:///:memory:" then .ok .memory
  else match after? "sqlite:///" url with
    | some path => .ok (.file path)
    | none =>
      if ((after? "postgresql://" url).or (after? "postgres://" url)).isSome then .ok (.server url)
      else .error (.unsupported url)

private def optionNames : List String := ["pool_size", "echo", "connect_timeout"]

def checkOptions : List String → Except AddressFault Unit
  | [] => .ok ()
  | name :: names =>
    if optionNames.contains name then checkOptions names
    else if name = "database_url" then .error (.repeatedOption name)
    else .error (.unknownOption name)

private def longestName : Nat := 255

private def longestPath : Nat := 510

private def sizeOf (name : String) : Nat := (Text.rawBytes name).length

/-- The names a path leads through, the last one first: steps back take the name before them away. A name that is too long, or
that makes the path too long up to it, leads nowhere, even if it is taken away later. -/
private def namesOf (start : Nat) (names : List String) : List String → Option (List String)
  | [] => some names
  | part :: parts =>
    if part = "" ∨ part = "." then namesOf start names parts
    else if part = ".." then namesOf start names.tail parts
    else if sizeOf part ≤ longestName ∧ start + names.foldr (fun name sum => sizeOf name + 1 + sum) 0 + sizeOf part ≤ longestPath then
      namesOf start (part :: names) parts
    else none

private def systemFolders : List String := ["bin", "boot", "dev", "etc", "home", "lib", "lib64", "media", "mnt", "opt", "proc",
  "root", "run", "sbin", "srv", "sys", "tmp", "usr", "var"]

private def currentSize : Nat := 32

/-- Whether a file can be made under a path while the current directory is empty: only directly in a directory that is there.
Its name leaves room for the endings of the journals beside it. The empty path stands for a file without a name. -/
def canMake (path : String) : Bool :=
  let hasRoom (name : String) : Bool := sizeOf (name ++ "-journal") ≤ longestName
  let isAbsolute := path.toList.head? == some '/'
  match namesOf (if isAbsolute then 0 else currentSize) [] (path.splitOn "/") with
  | some [] => path.isEmpty
  | some [name] => hasRoom name && !(isAbsolute && systemFolders.contains name)
  | some [name, folder] => hasRoom name && isAbsolute && folder == "tmp"
  | _ => false

/-- Where a file lies: the names that lead there, from the root or from the current directory. -/
structure Place where
  isAbsolute : Bool
  names : List String
deriving DecidableEq, Repr

def place? : StoreAddress → Option Place
  | .file path => match namesOf 0 [] (path.splitOn "/") with
    | some (name :: names) => some ⟨path.toList.head? == some '/', name :: names⟩
    | _ => none
  | _ => none

/-- Opens the store of an address in an empty directory and names its path; a server takes a client. -/
def opened (address : StoreAddress) (hasClient : Bool) : Except AddressFault String :=
  match address with
  | .memory => .ok ":memory:"
  | .file path =>
    match Text.unencodable? .raw path with
    | some fault => .error (.unencodable fault)
    | none =>
      if path.toList.contains '\x00' then .error .zeroInPath
      else if canMake path then .ok path
      else .error .unopened
  | .server url => if hasClient then .ok url else .error .noClient

end StoreAddress
end Passbook
