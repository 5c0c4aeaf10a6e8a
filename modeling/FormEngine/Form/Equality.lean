import FormEngine.Form

/-!
# Equality of forms

Two forms are the same if all their parts are, values by amount and times by instant. Whether NaN
equals NaN depends on where the values come from, so it is said for each comparison.
-/

namespace FormEngine

/-- Equality of words of a vocabulary; unknown ones are compared by amount. -/
def Recognised.same {κ : Type} [BEq κ] (nanSame : Bool) : Recognised κ → Recognised κ → Bool
  | .known a, .known b => a == b
  | .unknown a, .unknown b => a.sameUpTo nanSame b
  | _, _ => false

def ValidationRule.same (nanSame : Bool) (left right : ValidationRule) : Bool :=
  left.kind.same nanSame right.kind && left.parameter.sameUpTo nanSame right.parameter
    && left.message.sameUpTo nanSame right.message

def ConditionalRule.same (nanSame : Bool) (left right : ConditionalRule) : Bool :=
  left.trigger.sameUpTo nanSame right.trigger && left.operator.same nanSame right.operator
    && left.comparison.sameUpTo nanSame right.comparison

/-- Equality of entries of lists of rules. -/
def Entry.same {α : Type} (sameItem : α → α → Bool) (nanSame : Bool) : Entry α → Entry α → Bool
  | .proper a, .proper b => sameItem a b
  | .stray a, .stray b => a.sameUpTo nanSame b
  | _, _ => false

/-- Equality of lists, item by item. -/
def sameList {α : Type} (sameItem : α → α → Bool) : List α → List α → Bool
  | [], [] => true
  | a :: left, b :: right => sameItem a b && sameList sameItem left right
  | _, _ => false

def Field.same (nanSame : Bool) (left right : Field) : Bool :=
  left.id == right.id && left.type == right.type
    && left.label.sameUpTo nanSame right.label
    && left.placeholder.sameUpTo nanSame right.placeholder
    && left.description.sameUpTo nanSame right.description
    && left.required.sameUpTo nanSame right.required
    && left.options == right.options
    && sameList (Entry.same (ValidationRule.same nanSame) nanSame)
      left.validationRules right.validationRules
    && sameList (Entry.same (ConditionalRule.same nanSame) nanSame)
      left.conditionalRules right.conditionalRules
    && left.order.sameUpTo nanSame right.order
    && left.defaultValue.sameUpTo nanSame right.defaultValue

def Settings.same (nanSame : Bool) (left right : Settings) : Bool :=
  left.allowMultipleSubmissions == right.allowMultipleSubmissions
    && left.showProgressBar == right.showProgressBar
    && left.confirmationMessage.sameUpTo nanSame right.confirmationMessage
    && left.redirectUrl.sameUpTo nanSame right.redirectUrl
    && left.saveToLocalStorage == right.saveToLocalStorage

/-- Equality of times that may be missing. -/
def sameTime : Option DateTime → Option DateTime → Bool
  | none, none => true
  | some a, some b => a.same b
  | _, _ => false

/-- Equality of forms. -/
def Form.same (nanSame : Bool) (left right : Form) : Bool :=
  left.id == right.id && left.title.sameUpTo nanSame right.title
    && left.description.sameUpTo nanSame right.description
    && sameList (Field.same nanSame) left.fields right.fields
    && left.settings.same nanSame right.settings
    && sameTime left.created right.created && sameTime left.updated right.updated

end FormEngine
