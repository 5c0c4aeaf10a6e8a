import FormEngine.Answer

/-!
# The preview

While a form is edited it can be tried out. The preview holds the answers given so far and the
messages of the last evaluation; neither is part of the form.
-/

namespace FormEngine

/-- Answers and messages of a form that is tried out. -/
structure Preview where
  answers : Answers := {}
  errors : Table Value := {}
  deriving DecidableEq, Repr

namespace Preview

/-- Records an answer; its message is gone until the next evaluation. -/
def answer (preview : Preview) (id : String) (value : Value) : Preview where
  answers := preview.answers.insert id value
  errors := preview.errors.erase id

/-- Sets the message of a field, or removes it where there is none to show. -/
def setError (preview : Preview) (id : String) (message : Value) : Preview :=
  { preview with
    errors :=
      if message.truthy then preview.errors.insert id message else preview.errors.erase id }

/-- Removes all messages. -/
def clearErrors (preview : Preview) : Preview :=
  { preview with errors := {} }

/-- Removes all that is known of a field. -/
def forget (preview : Preview) (id : String) : Preview where
  answers := preview.answers.erase id
  errors := preview.errors.erase id

end Preview

end FormEngine
