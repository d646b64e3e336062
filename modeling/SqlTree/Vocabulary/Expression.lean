import SqlTree.Vocabulary.Basic

/-!
# Enumerations of expressions

The enumerated fields of expressions: boolean operators, tests, forms of operator expressions and
of rows, and the functions that are keywords.
-/

namespace SqlTree

/-- A boolean operator. -/
inductive BoolExprType where
  | and
  | or
  | not
  deriving BEq, DecidableEq, Repr

instance : Vocabulary BoolExprType where
  ofCode?
    | 0 => some .and
    | 1 => some .or
    | 2 => some .not
    | _ => none
  ofSymbol?
    | "AND_EXPR" => some .and
    | "OR_EXPR" => some .or
    | "NOT_EXPR" => some .not
    | _ => none
  entries := [(.and, "AND_EXPR"), (.or, "OR_EXPR"), (.not, "NOT_EXPR")]

/-- The name of a boolean operator. -/
def BoolExprType.keyword : BoolExprType → String
  | .and => "AND"
  | .or => "OR"
  | .not => "NOT"

/-- A test for null. -/
inductive NullTestType where
  | isNull
  | isNotNull
  deriving BEq, DecidableEq, Repr

instance : Vocabulary NullTestType where
  ofCode?
    | 0 => some .isNull
    | 1 => some .isNotNull
    | _ => none
  ofSymbol?
    | "IS_NULL" => some .isNull
    | "IS_NOT_NULL" => some .isNotNull
    | _ => none
  entries := [(.isNull, "IS_NULL"), (.isNotNull, "IS_NOT_NULL")]

/-- A test of a truth value. -/
inductive BoolTestType where
  | isTrue
  | isNotTrue
  | isFalse
  | isNotFalse
  | isUnknown
  | isNotUnknown
  deriving BEq, DecidableEq, Repr

instance : Vocabulary BoolTestType where
  ofCode?
    | 0 => some .isTrue
    | 1 => some .isNotTrue
    | 2 => some .isFalse
    | 3 => some .isNotFalse
    | 4 => some .isUnknown
    | 5 => some .isNotUnknown
    | _ => none
  ofSymbol?
    | "IS_TRUE" => some .isTrue
    | "IS_NOT_TRUE" => some .isNotTrue
    | "IS_FALSE" => some .isFalse
    | "IS_NOT_FALSE" => some .isNotFalse
    | "IS_UNKNOWN" => some .isUnknown
    | "IS_NOT_UNKNOWN" => some .isNotUnknown
    | _ => none
  entries :=
    [(.isTrue, "IS_TRUE"), (.isNotTrue, "IS_NOT_TRUE"), (.isFalse, "IS_FALSE"),
      (.isNotFalse, "IS_NOT_FALSE"), (.isUnknown, "IS_UNKNOWN"),
      (.isNotUnknown, "IS_NOT_UNKNOWN")]

/-- How a row constructor was written. -/
inductive CoercionForm where
  | explicitCall
  | explicitCast
  | implicitCast
  | sqlSyntax
  deriving BEq, DecidableEq, Repr

instance : Vocabulary CoercionForm where
  ofCode?
    | 0 => some .explicitCall
    | 1 => some .explicitCast
    | 2 => some .implicitCast
    | 3 => some .sqlSyntax
    | _ => none
  ofSymbol?
    | "COERCE_EXPLICIT_CALL" => some .explicitCall
    | "COERCE_EXPLICIT_CAST" => some .explicitCast
    | "COERCE_IMPLICIT_CAST" => some .implicitCast
    | "COERCE_SQL_SYNTAX" => some .sqlSyntax
    | _ => none
  entries :=
    [(.explicitCall, "COERCE_EXPLICIT_CALL"), (.explicitCast, "COERCE_EXPLICIT_CAST"),
      (.implicitCast, "COERCE_IMPLICIT_CAST"), (.sqlSyntax, "COERCE_SQL_SYNTAX")]

/-- A form of operator expression. -/
inductive AExprKind where
  | op
  | opAny
  | opAll
  | distinct
  | notDistinct
  | nullIf
  | of
  /-- `x IN (a, b, ...)` -/
  | inList
  | like
  | ilike
  | similar
  | between
  | notBetween
  | betweenSym
  | notBetweenSym
  | paren
  deriving BEq, DecidableEq, Repr

instance : Vocabulary AExprKind where
  ofCode?
    | 0 => some .op
    | 1 => some .opAny
    | 2 => some .opAll
    | 3 => some .distinct
    | 4 => some .notDistinct
    | 5 => some .nullIf
    | 6 => some .of
    | 7 => some .inList
    | 8 => some .like
    | 9 => some .ilike
    | 10 => some .similar
    | 11 => some .between
    | 12 => some .notBetween
    | 13 => some .betweenSym
    | 14 => some .notBetweenSym
    | 15 => some .paren
    | _ => none
  ofSymbol?
    | "AEXPR_OP" => some .op
    | "AEXPR_OP_ANY" => some .opAny
    | "AEXPR_OP_ALL" => some .opAll
    | "AEXPR_DISTINCT" => some .distinct
    | "AEXPR_NOT_DISTINCT" => some .notDistinct
    | "AEXPR_NULLIF" => some .nullIf
    | "AEXPR_OF" => some .of
    | "AEXPR_IN" => some .inList
    | "AEXPR_LIKE" => some .like
    | "AEXPR_ILIKE" => some .ilike
    | "AEXPR_SIMILAR" => some .similar
    | "AEXPR_BETWEEN" => some .between
    | "AEXPR_NOT_BETWEEN" => some .notBetween
    | "AEXPR_BETWEEN_SYM" => some .betweenSym
    | "AEXPR_NOT_BETWEEN_SYM" => some .notBetweenSym
    | "AEXPR_PAREN" => some .paren
    | _ => none
  entries :=
    [(.op, "AEXPR_OP"), (.opAny, "AEXPR_OP_ANY"), (.opAll, "AEXPR_OP_ALL"),
      (.distinct, "AEXPR_DISTINCT"), (.notDistinct, "AEXPR_NOT_DISTINCT"),
      (.nullIf, "AEXPR_NULLIF"), (.of, "AEXPR_OF"), (.inList, "AEXPR_IN"),
      (.like, "AEXPR_LIKE"), (.ilike, "AEXPR_ILIKE"), (.similar, "AEXPR_SIMILAR"),
      (.between, "AEXPR_BETWEEN"), (.notBetween, "AEXPR_NOT_BETWEEN"),
      (.betweenSym, "AEXPR_BETWEEN_SYM"), (.notBetweenSym, "AEXPR_NOT_BETWEEN_SYM"),
      (.paren, "AEXPR_PAREN")]

/-- Which extreme of its arguments an expression takes. -/
inductive MinMaxOp where
  | greatest
  | least
  deriving BEq, DecidableEq, Repr

instance : Vocabulary MinMaxOp where
  ofCode?
    | 0 => some .greatest
    | 1 => some .least
    | _ => none
  ofSymbol?
    | "IS_GREATEST" => some .greatest
    | "IS_LEAST" => some .least
    | _ => none
  entries := [(.greatest, "IS_GREATEST"), (.least, "IS_LEAST")]

/-- A function that is called by its keyword alone. The forms ending in `N` take a precision. -/
inductive SqlValueFunctionOp where
  | currentDate
  | currentTime
  | currentTimeN
  | currentTimestamp
  | currentTimestampN
  | localTime
  | localTimeN
  | localTimestamp
  | localTimestampN
  | currentRole
  | currentUser
  | user
  | sessionUser
  | currentCatalog
  | currentSchema
  deriving BEq, DecidableEq, Repr

instance : Vocabulary SqlValueFunctionOp where
  ofCode?
    | 0 => some .currentDate
    | 1 => some .currentTime
    | 2 => some .currentTimeN
    | 3 => some .currentTimestamp
    | 4 => some .currentTimestampN
    | 5 => some .localTime
    | 6 => some .localTimeN
    | 7 => some .localTimestamp
    | 8 => some .localTimestampN
    | 9 => some .currentRole
    | 10 => some .currentUser
    | 11 => some .user
    | 12 => some .sessionUser
    | 13 => some .currentCatalog
    | 14 => some .currentSchema
    | _ => none
  ofSymbol?
    | "SVFOP_CURRENT_DATE" => some .currentDate
    | "SVFOP_CURRENT_TIME" => some .currentTime
    | "SVFOP_CURRENT_TIME_N" => some .currentTimeN
    | "SVFOP_CURRENT_TIMESTAMP" => some .currentTimestamp
    | "SVFOP_CURRENT_TIMESTAMP_N" => some .currentTimestampN
    | "SVFOP_LOCALTIME" => some .localTime
    | "SVFOP_LOCALTIME_N" => some .localTimeN
    | "SVFOP_LOCALTIMESTAMP" => some .localTimestamp
    | "SVFOP_LOCALTIMESTAMP_N" => some .localTimestampN
    | "SVFOP_CURRENT_ROLE" => some .currentRole
    | "SVFOP_CURRENT_USER" => some .currentUser
    | "SVFOP_USER" => some .user
    | "SVFOP_SESSION_USER" => some .sessionUser
    | "SVFOP_CURRENT_CATALOG" => some .currentCatalog
    | "SVFOP_CURRENT_SCHEMA" => some .currentSchema
    | _ => none
  entries :=
    [(.currentDate, "SVFOP_CURRENT_DATE"), (.currentTime, "SVFOP_CURRENT_TIME"),
      (.currentTimeN, "SVFOP_CURRENT_TIME_N"), (.currentTimestamp, "SVFOP_CURRENT_TIMESTAMP"),
      (.currentTimestampN, "SVFOP_CURRENT_TIMESTAMP_N"), (.localTime, "SVFOP_LOCALTIME"),
      (.localTimeN, "SVFOP_LOCALTIME_N"), (.localTimestamp, "SVFOP_LOCALTIMESTAMP"),
      (.localTimestampN, "SVFOP_LOCALTIMESTAMP_N"), (.currentRole, "SVFOP_CURRENT_ROLE"),
      (.currentUser, "SVFOP_CURRENT_USER"), (.user, "SVFOP_USER"),
      (.sessionUser, "SVFOP_SESSION_USER"), (.currentCatalog, "SVFOP_CURRENT_CATALOG"),
      (.currentSchema, "SVFOP_CURRENT_SCHEMA")]

end SqlTree
