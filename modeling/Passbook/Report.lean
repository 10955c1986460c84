import Passbook.Text.Utf8
import Passbook.Time.Month
import Passbook.Operation
/-! Monthly revenue: what the orders of a month have brought in, by service. -/
namespace Passbook.Report
open OrderRows Time

/-- Totals by service, in ascending order of the services. -/
abbrev Totals := List (Cell × Int)

def header : String := "service_id,amount"

/-- A text stands between quotes if a comma, a quote or a line break occurs in it; a quote in it is doubled. -/
private def field : Cell → String
  | .null => ""
  | .int n => toString n
  | .real x => Decimal.shortText x.float
  | .text s =>
    if s.toList.any (",\"\n".toList.contains ·) then "\"" ++ s.replace "\"" "\"\"" ++ "\"" else s

def line (service : Cell) (amount : Int) : String := field service ++ "," ++ toString amount

def csv (totals : Totals) : String :=
  String.join ((header :: totals.map fun (service, amount) => line service amount).map (· ++ "\n"))

def csvBytes (totals : Totals) : List UInt8 := (Text.utf8Bytes (csv totals)).map Nat.toUInt8

/-- The totals of pairs in any order; a later pair of a service replaces an earlier one. -/
def totalsOf (pairs : List (Int × Int)) : Totals :=
  (pairs.foldl (fun totals pair =>
    if totals.any (fun t => t.1 == pair.1) then totals.map fun t => if t.1 = pair.1 then pair else t
    else Rows.insert Prod.fst pair totals) []).map fun (service, amount) => (.int service, amount)

/-- Services can be put in order if all of them are numbers or all of them text. -/
def checkOrder : Totals → Except Failure Unit
  | (.int _, _) :: (.text _, _) :: _ => .error (.unsuited (.textBeside false))
  | (.real _, _) :: (.text _, _) :: _ => .error (.unsuited (.textBeside true))
  | _ :: totals => checkOrder totals
  | [] => .ok ()

private def wholeTotal : Cell → Except Failure Int
  | .real x => match Decimal.truncated? x.float with
    | some n => .ok n
    | none => .error (.unsuited .infiniteTotal)
  | cell => .ok cell.whole

def monthly (year month : Int) : LedgerWork Totals := do
  let (first, next) ← Act.ofExcept ((monthBounds year month).mapError .ofMonth)
  let totals ← LedgerWork.ask "aggregate paid amounts" (OrderRows.paidTotals first next)
  Act.ofExcept (totals.mapM fun (service, total) => do return (service, ← wholeTotal total))

def key (year month : Int) : String := s!"{year}-{month}"

/-- A month can be reported on once a clock shows a later one. -/
def isOver (year month : Int) (clock : Reading) : Bool :=
  let now := clock.wall.date
  year < now.year || (year == now.year && month < now.month)

end Passbook.Report
