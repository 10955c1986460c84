import Passbook.Http.Message
import Passbook.Http.Pattern
import Passbook.Text.Percent
/-! Which endpoint a request is for. The first endpoint that takes path and method answers; if only paths agree, the first of
them names its method, and a path that agrees but for a slash at its end is redirected. -/
namespace Passbook.Http

inductive Endpoint where
  | balance
  | credit
  | transfer
  | transactions
  | createOrder
  | payOrder
  | cancelOrder
  | order
  | reportLink
  | report
  | health
deriving DecidableEq, Repr

namespace Endpoint

def method : Endpoint → String
  | .credit | .transfer | .createOrder | .payOrder | .cancelOrder | .reportLink => "POST"
  | _ => "GET"

def all : List Endpoint :=
  [.balance, .credit, .transfer, .transactions, .createOrder, .payOrder, .cancelOrder, .order, .reportLink, .report, .health]

def path (mount : String) : Endpoint → String
  | .balance => mount ++ "/balance/\x7baccount_id\x7d"
  | .credit => mount ++ "/balance/add"
  | .transfer => mount ++ "/balance/transfer"
  | .transactions => mount ++ "/transaction/\x7baccount_id\x7d"
  | .createOrder => mount ++ "/order/create"
  | .payOrder => mount ++ "/order/pay"
  | .cancelOrder => mount ++ "/order/cancel"
  | .order => mount ++ "/order/\x7border_id\x7d"
  | .reportLink => mount ++ "/report/link"
  | .report => mount ++ "/report"
  | .health => "/health"

def takesBody (endpoint : Endpoint) : Bool := endpoint.method == "POST"

end Endpoint

structure Site where
  endpoint : Endpoint
  pattern : Pattern
deriving DecidableEq, Repr

def bodyName : String := "request"

def Site.mount (path : String) (endpoint : Endpoint) : Except MountFault Site := do
  let pattern ← Pattern.ofText (endpoint.path path)
  if endpoint.takesBody && pattern.bracedNames.contains bodyName then throw .bodyInPath
  return ⟨endpoint, pattern⟩

/-- A service can be mounted at the root or at a path that starts with a slash. -/
def canMount (path : String) : Bool :=
  match path.toList with
  | [] | '/' :: _ => true
  | _ => false

def sitesUnder (path : String) : Except MountFault (List Site) :=
  if canMount path then Endpoint.all.mapM (Site.mount path) else .error .unrooted

def Site.take? (site : Site) (path : String) : Except EndlessNumeral (Option (List (String × Held))) := do
  let held := Pattern.take? site.pattern.pieces path.toList
  (held.getD []).forM (·.2.check)
  return held

structure Fields where
  inPath : List String
  held : List (String × Held)
  query : String
deriving DecidableEq, Repr

inductive Route where
  | found (endpoint : Endpoint) (fields : Fields)
  | otherMethod (allowed : String)
  | redirected (location : String)
  | unknown
deriving DecidableEq, Repr

namespace Request

def parts (r : Request) : String × String :=
  match r.target.splitOn "?" with
  | [] => ("", "")
  | path :: query => (Text.percentDecoded path, "?".intercalate query)

private def otherSlash (path : String) : String :=
  match path.toList.reverse with
  | '/' :: rest => String.ofList (rest.dropWhile (· == '/')).reverse
  | _ => path ++ "/"

/-- The first site that takes path and method, else the first one that takes the path. -/
private def search (method path query : String) : List Site → Except EndlessNumeral Route
  | [] => .ok .unknown
  | site :: sites => do
    match ← site.take? path with
    | none => search method path query sites
    | some held =>
      if site.endpoint.method = method then return .found site.endpoint ⟨site.pattern.bracedNames, held, query⟩
      match ← search method path query sites with
      | .found endpoint fields => return .found endpoint fields
      | _ => return .otherMethod site.endpoint.method

def route (sites : List Site) (r : Request) : Except EndlessNumeral Route := do
  let (path, query) := r.parts
  match ← search r.method path query sites with
  | .unknown =>
    let other := otherSlash path
    if path ≠ "/" ∧ (← sites.anyM fun site => do return (← site.take? other).isSome) then
      return .redirected (Text.percentEncoded ("http://testserver" ++ other ++ (if query.isEmpty then "" else "?" ++ query)))
    return .unknown
  | route => return route

end Request
end Passbook.Http
