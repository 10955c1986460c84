import Passbook.Migration.Script.Shape
/-! The shapes of the statements of the language. Deep inside expressions anything is let through. -/
namespace Passbook.Script
namespace Shape

private def number : Shape := .one .number

private def signed : Shape := .seq (optional (oneOf [sign "+", sign "-"])) number

def columnType : Shape :=
  .seq label (.seq (.many label) (optional (enclosed (.seq signed (optional (.seq (sign ",") signed))))))

private def constant : Shape :=
  oneOf [keyword "NULL", number, .one .string, keyword "CURRENT_DATE", keyword "CURRENT_TIME", keyword "CURRENT_TIMESTAMP"]

private def operators : Shape :=
  oneOf ((["||", "->", "->>", "*", "/", "%", "+", "-", "<<", ">>", "&", "|", "<", "<=", ">", ">=", "=", "==", "<>", "!="].map sign)
    ++ [keyword "AND", keyword "OR", .seq (keyword "IS") (optional (keyword "NOT")),
      .seq (optional (keyword "NOT")) (oneOf [keyword "LIKE", keyword "GLOB", keyword "REGEXP", keyword "MATCH"]),
      keyword "ESCAPE"])

/-- An expression in which parentheses nest to a depth. -/
def expression : Nat → Shape
  | 0 => .seq (oneOf [constant, .one .parameter, title, sign "(", sign "-", sign "+", sign "~", keyword "NOT", keyword "CAST",
      keyword "CASE", keyword "EXISTS", keyword "SELECT"]) .free
  | depth + 1 =>
    let inner := expression depth
    let call := enclosed (oneOf [.done, sign "*", .seq (optional (keyword "DISTINCT")) (listed inner)])
    let operand := .seq (.many (oneOf [sign "-", sign "+", sign "~", keyword "NOT"])) (oneOf [
      constant, .one .parameter,
      .seq title (optional (oneOf [call, .seq (sign ".") (.seq title (optional (.seq (sign ".") title)))])),
      enclosed (oneOf [listed inner, .seq (keyword "SELECT") .free]),
      .seq (keyword "CAST") (enclosed (inOrder [inner, keyword "AS", columnType])),
      .seq (keyword "CASE") .free,
      .seq (keyword "EXISTS") (enclosed (.seq (keyword "SELECT") .free))])
    let ending := oneOf [
      .seq operators operand, keyword "ISNULL", keyword "NOTNULL", keywords ["NOT", "NULL"], .seq (keyword "COLLATE") label,
      .seq (optional (keyword "NOT")) (oneOf [
        .seq (keyword "IN") (oneOf [enclosed (oneOf [.done, listed inner, .seq (keyword "SELECT") .free]), reference]),
        inOrder [keyword "BETWEEN", operand, keyword "AND", operand]])]
    .seq operand (.many ending)

private def value : Shape := expression 2

private def query : Shape :=
  let result := oneOf [sign "*", .seq value (optional (oneOf [.seq (keyword "AS") label, label])),
    inOrder [title, sign ".", sign "*"]]
  let ordered := .seq value (optional (oneOf [keyword "ASC", keyword "DESC"]))
  let item := .seq (oneOf [reference, enclosed (.seq (oneOf [keyword "SELECT", title, keyword "VALUES"]) .free)])
    (optional (oneOf [.seq (keyword "AS") label, label]))
  let joined := .seq (oneOf [sign ",", .seq (.many (oneOf (["NATURAL", "LEFT", "RIGHT", "FULL", "INNER", "OUTER", "CROSS"].map keyword)))
    (keyword "JOIN")]) (.seq item (optional (.seq (keyword "ON") value)))
  let head := oneOf [
    inOrder [keyword "SELECT", optional (oneOf [keyword "DISTINCT", keyword "ALL"]), listed result,
      optional (inOrder [keyword "FROM", item, .many joined]), optional (.seq (keyword "WHERE") value),
      optional (inOrder [keywords ["GROUP", "BY"], listed value, optional (.seq (keyword "HAVING") value)])],
    .seq (keyword "VALUES") (listed (enclosed (listed value)))]
  inOrder [head, .many (.seq (oneOf [.seq (keyword "UNION") (optional (keyword "ALL")), keyword "EXCEPT", keyword "INTERSECT"]) head),
    optional (.seq (keywords ["ORDER", "BY"]) (listed ordered)),
    optional (inOrder [keyword "LIMIT", value, optional (.seq (oneOf [keyword "OFFSET", sign ","]) value)])]

private def resolutions : Shape := oneOf (["ROLLBACK", "ABORT", "FAIL", "IGNORE", "REPLACE"].map keyword)

private def onConflict : Shape := optional (.seq (keywords ["ON", "CONFLICT"]) resolutions)

private def columnNames : Shape := enclosed (listed title)

private def foreign : Shape :=
  let action := oneOf [keywords ["SET", "NULL"], keywords ["SET", "DEFAULT"], keyword "CASCADE", keyword "RESTRICT",
    keywords ["NO", "ACTION"]]
  inOrder [keyword "REFERENCES", title, optional columnNames,
    .many (oneOf [inOrder [keyword "ON", oneOf [keyword "DELETE", keyword "UPDATE", keyword "INSERT"], action],
      .seq (keyword "MATCH") title])]

private def deferral : Shape :=
  inOrder [optional (keyword "NOT"), keyword "DEFERRABLE",
    optional (.seq (keyword "INITIALLY") (oneOf [keyword "DEFERRED", keyword "IMMEDIATE"]))]

private def columnRule : Shape := oneOf [
  .seq (keyword "CONSTRAINT") title,
  .seq (keyword "DEFAULT") (oneOf [enclosed value, constant, signed, label]),
  .seq (keyword "NULL") onConflict,
  .seq (keywords ["NOT", "NULL"]) onConflict,
  inOrder [keywords ["PRIMARY", "KEY"], optional (oneOf [keyword "ASC", keyword "DESC"]), onConflict,
    optional (keyword "AUTOINCREMENT")],
  .seq (keyword "UNIQUE") onConflict,
  .seq (keyword "CHECK") (enclosed value),
  foreign,
  deferral,
  .seq (keyword "COLLATE") label,
  inOrder [optional (keywords ["GENERATED", "ALWAYS"]), keyword "AS", enclosed value, optional label]]

private def column : Shape := inOrder [title, optional columnType, .many columnRule]

private def tableRule : Shape :=
  let ordered := listed (.seq value (optional (oneOf [keyword "ASC", keyword "DESC"])))
  oneOf [
    .seq (keyword "CONSTRAINT") title,
    inOrder [keywords ["PRIMARY", "KEY"], enclosed (.seq ordered (optional (keyword "AUTOINCREMENT"))), onConflict],
    inOrder [keyword "UNIQUE", enclosed ordered, onConflict],
    inOrder [keyword "CHECK", enclosed value, onConflict],
    inOrder [keywords ["FOREIGN", "KEY"], columnNames, foreign, optional deferral]]

private def unlessThere : Shape := optional (keywords ["IF", "NOT", "EXISTS"])

private def ifThere : Shape := optional (keywords ["IF", "EXISTS"])

private def temporary : Shape := optional (oneOf [keyword "TEMP", keyword "TEMPORARY"])

private def table : Shape :=
  let columns := .seq (listed column) (optional (inOrder [sign ",", tableRule, .many (.seq (optional (sign ",")) tableRule)]))
  let options := listed (oneOf [.seq (keyword "WITHOUT") title, title])
  inOrder [keyword "TABLE", unlessThere, reference,
    oneOf [.seq (enclosed columns) (optional options), .seq (keyword "AS") query]]

private def creation : Shape := .seq (keyword "CREATE") (oneOf [
  .seq temporary (oneOf [
    table,
    inOrder [keyword "VIEW", unlessThere, reference, optional columnNames, keyword "AS", query],
    inOrder [keyword "TRIGGER", unlessThere, reference, optional (oneOf [keyword "BEFORE", keyword "AFTER", keywords ["INSTEAD", "OF"]]),
      oneOf [keyword "DELETE", keyword "INSERT", keyword "UPDATE"], .free]]),
  inOrder [optional (keyword "UNIQUE"), keyword "INDEX", unlessThere, reference, keyword "ON", title, enclosed (listed value),
    optional (.seq (keyword "WHERE") value)],
  inOrder [keywords ["VIRTUAL", "TABLE"], unlessThere, reference, keyword "USING", title, .free]])

private def change : Shape :=
  let target := .seq reference (optional (.seq (keyword "AS") title))
  let assignment := inOrder [oneOf [title, columnNames], sign "=", value]
  let filter := optional (.seq (keyword "WHERE") value)
  let returned := optional (.seq (keyword "RETURNING") .free)
  let otherwise := .seq (keyword "OR") resolutions
  oneOf [
    inOrder [oneOf [.seq (keyword "INSERT") (optional otherwise), keyword "REPLACE"], keyword "INTO", target, optional columnNames,
      oneOf [keywords ["DEFAULT", "VALUES"], .seq query (optional (.seq (keywords ["ON", "CONFLICT"]) .free))], returned],
    inOrder [keywords ["DELETE", "FROM"], target, filter, returned],
    inOrder [keyword "UPDATE", optional otherwise, target, keyword "SET", listed assignment,
      optional (.seq (keyword "FROM") .free), filter, returned]]

private def transaction : Shape :=
  let named := optional (.seq (keyword "TRANSACTION") (optional title))
  oneOf [
    inOrder [keyword "BEGIN", optional (oneOf [keyword "DEFERRED", keyword "IMMEDIATE", keyword "EXCLUSIVE"]), named],
    .seq (oneOf [keyword "COMMIT", keyword "END"]) named,
    inOrder [keyword "ROLLBACK", named, optional (inOrder [keyword "TO", optional (keyword "SAVEPOINT"), title])],
    .seq (keyword "SAVEPOINT") title,
    inOrder [keyword "RELEASE", optional (keyword "SAVEPOINT"), title]]

private def upkeep : Shape :=
  let setting := oneOf [signed, title, keyword "ON", keyword "DELETE", keyword "DEFAULT"]
  let columnWord := optional (keyword "COLUMN")
  oneOf [
    inOrder [keywords ["ALTER", "TABLE"], reference, oneOf [
      .seq (keyword "RENAME") (oneOf [.seq (keyword "TO") title, inOrder [columnWord, title, keyword "TO", title]]),
      inOrder [keyword "ADD", columnWord, column],
      inOrder [keyword "DROP", columnWord, title]]],
    inOrder [keyword "PRAGMA", reference, optional (oneOf [.seq (sign "=") setting, enclosed setting])],
    inOrder [keyword "VACUUM", optional title, optional (.seq (keyword "INTO") value)],
    .seq (oneOf [keyword "REINDEX", keyword "ANALYZE"]) (optional reference),
    inOrder [keyword "ATTACH", optional (keyword "DATABASE"), value, keyword "AS", value, optional (.seq (keyword "KEY") value)],
    inOrder [keyword "DETACH", optional (keyword "DATABASE"), value]]

private def removal : Shape :=
  inOrder [keyword "DROP", oneOf (["TABLE", "VIEW", "INDEX", "TRIGGER"].map keyword), ifThere, reference]

private def plain : Shape := oneOf [
  creation, removal, change, query, transaction, upkeep,
  inOrder [keyword "WITH", optional (keyword "RECURSIVE"), title, optional columnNames, keyword "AS",
    optional (.seq (optional (keyword "NOT")) (keyword "MATERIALIZED")), sign "(",
    oneOf [keyword "SELECT", keyword "VALUES", keyword "WITH"], .free]]

def statement : Shape := .seq (optional (.seq (keyword "EXPLAIN") (optional (keywords ["QUERY", "PLAN"])))) plain

end Shape
end Passbook.Script
