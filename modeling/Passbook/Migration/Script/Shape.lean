import Passbook.Migration.Script.Token
/-! Shapes of statements: which tokens may follow one another. A shape is taken token by token; what is left of it says what
may come next. -/
namespace Passbook.Script

inductive Slot where
  | word (text : String)
  | mark (text : String)
  /-- The name of a thing: a name, a text in quotes, or one of a few words. -/
  | title
  /-- A name or a text in quotes. -/
  | label
  | string
  | number
  | parameter
deriving DecidableEq, Repr

def Slot.takes (slot : Slot) (t : Token) : Bool :=
  match slot with
  | .word text => t.kind == .word && t.word == text
  | .mark text => t.kind == .mark && t.text == text
  | .title => t.kind == .name || t.kind == .string || (t.kind == .word && joiningWords.contains t.word)
  | .label => t.kind == .name || t.kind == .string
  | .string => t.kind == .string
  | .number => t.kind == .number
  | .parameter => t.kind == .parameter

inductive Shape where
  | never
  | done
  /-- Anything at all. -/
  | free
  | one (slot : Slot)
  | seq (first second : Shape)
  | either (first second : Shape)
  | many (shape : Shape)
deriving DecidableEq, Repr

namespace Shape

def isDone : Shape → Bool
  | .never | .one _ => false
  | .done | .free | .many _ => true
  | .seq a b => a.isDone && b.isDone
  | .either a b => a.isDone || b.isDone

private def join : Shape → Shape → Shape
  | .never, _ => .never
  | .done, b => b
  | a, b => .seq a b

private def choose : Shape → Shape → Shape
  | .never, b => b
  | a, .never => a
  | a, b => if a = b then a else .either a b

def after (t : Token) : Shape → Shape
  | .never | .done => .never
  | .free => .free
  | .one slot => if slot.takes t then .done else .never
  | .seq a b => if a.isDone then choose (join (a.after t) b) (b.after t) else join (a.after t) b
  | .either a b => choose (a.after t) (b.after t)
  | .many a => join (a.after t) (.many a)

/-- What may follow a token; a loose word stands for a name where it has no meaning of its own. -/
def next (shape : Shape) (t : Token) : Shape :=
  match shape.after t with
  | .never => if t.kind = .word ∧ looseWords.contains t.word then shape.after { t with kind := .name } else .never
  | shape => shape

/-! Ways to put shapes together -/

def keyword (text : String) : Shape := .one (.word text)

def keywords (texts : List String) : Shape := texts.foldr (fun text rest => join (keyword text) rest) .done

def sign (text : String) : Shape := .one (.mark text)

def inOrder (shapes : List Shape) : Shape := shapes.foldr join .done

def oneOf (shapes : List Shape) : Shape := shapes.foldr choose .never

def optional (shape : Shape) : Shape := .either shape .done

def listed (shape : Shape) : Shape := .seq shape (.many (.seq (sign ",") shape))

def enclosed (shape : Shape) : Shape := inOrder [sign "(", shape, sign ")"]

def title : Shape := .one .title

def label : Shape := .one .label

def reference : Shape := .seq title (optional (.seq (sign ".") title))

end Shape
end Passbook.Script
