import Conform.Value

namespace Conform

/-- What a call answers: a value at hand or a new list. -/
inductive Reply where
  | value (value : Value)
  | list (items : List Value)
deriving DecidableEq

/-- What a function does with its argument. What a custom one answers, which is known by its
name alone, is up to the caller; that it might do something else besides is left out. -/
inductive Function where
  | always
  | never
  | identity
  | constant (reply : Value)
  | failing
  | isEven
  | isText
  | isInteger
  | isMapping
  | isList
  | notNull
  | isUndefined
  | equalTo (other : Value)
  | below (bound : Value)
  | length
  | form
  | kind
  | wrap
  | custom (name : String)
deriving DecidableEq

/-- The name under which a function is traced and shown. -/
def Function.name : Function → String
  | .always => "always"
  | .never => "never"
  | .identity => "identity"
  | .constant _ => "return"
  | .failing => "raises"
  | .isEven => "is_even"
  | .isText => "is_str"
  | .isInteger => "is_int"
  | .isMapping => "is_dict"
  | .isList => "is_list"
  | .notNull => "not_none"
  | .isUndefined => "is_undefined"
  | .equalTo _ => "eq"
  | .below _ => "lt"
  | .length => "len"
  | .form => "repr"
  | .kind => "kind"
  | .wrap => "wrap"
  | .custom name => name

end Conform
