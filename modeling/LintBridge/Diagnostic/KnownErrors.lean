/-!
# Documented errors

The identifiers that have a page in the linter's documentation, in increasing order. Whether an
identifier is documented is found by binary search, which is right because the list is
strictly increasing.
-/

namespace LintBridge.KnownErrors

/-- The documented identifiers, strictly increasing. -/
def names : Array String := #[
  "APOSTROPHE_IN_COMMENT",
  "ARG_TYPE_UKN",
  "ASSIGN_IN_CONTROL",
  "ATTR_EOL",
  "BRACE_NEWLINE",
  "BRACE_SHOULD_EOL",
  "COMMENT_ON_INSTR",
  "CONSECUTIVE_NEWLINES",
  "CONSECUTIVE_SPC",
  "CONSECUTIVE_WS",
  "DECL_ASSIGN_LINE",
  "EMPTY_LINE_EOF",
  "EMPTY_LINE_FILE_START",
  "EMPTY_LINE_FUNCTION",
  "ENUM_TYPE_NAMING",
  "EOL_OPERATOR",
  "EXP_PARENTHESIS",
  "EXP_TAB",
  "FORBIDDEN_CHAR_NAME",
  "FORBIDDEN_CS",
  "FORBIDDEN_ENUM",
  "FORBIDDEN_STRUCT",
  "FORBIDDEN_TYPEDEF",
  "FORBIDDEN_UNION",
  "GLOBAL_VAR_DETECTED",
  "GLOBAL_VAR_NAMING",
  "GOTO_FBIDDEN",
  "HEADER_PROT_ALL",
  "HEADER_PROT_NAME",
  "HEADER_PROT_NODEF",
  "HEADER_PROT_UPPER",
  "IMPLICIT_VAR_TYPE",
  "INCLUDE_HEADER_ONLY",
  "INCLUDE_START_FILE",
  "INVALID_HEADER",
  "LABEL_FBIDDEN",
  "LINE_TOO_LONG",
  "MACRO_FUNC_FORBIDDEN",
  "MACRO_NAME_CAPITAL",
  "MISALIGNED_FUNC_DECL",
  "MISALIGNED_VAR_DECL",
  "MISSING_IDENTIFIER",
  "MISSING_TAB_FUNC",
  "MISSING_TAB_VAR",
  "MIXED_SPACE_TAB",
  "MULT_ASSIGN_LINE",
  "MULT_DECL_LINE",
  "MULT_IN_SINGLE_INSTR",
  "NEWLINE_IN_DECL",
  "NEWLINE_PRECEDES_FUNC",
  "NL_AFTER_PREPROC",
  "NL_AFTER_VAR_DECL",
  "NO_ARGS_VOID",
  "NO_SPC_AFR_OPR",
  "NO_SPC_AFR_PAR",
  "NO_SPC_BFR_OPR",
  "NO_SPC_BFR_PAR",
  "PREPROC_BAD_INDENT",
  "PREPROC_CONSTANT",
  "PREPROC_EXPECTED_EOL",
  "PREPROC_NO_SPACE",
  "PREPROC_START_LINE",
  "RETURN_PARENTHESIS",
  "SPACE_AFTER_KW",
  "SPACE_BEFORE_FUNC",
  "SPACE_EMPTY_LINE",
  "SPACE_REPLACE_TAB",
  "SPC_AFTER_OPERATOR",
  "SPC_AFTER_PAR",
  "SPC_AFTER_POINTER",
  "SPC_BEFORE_NL",
  "SPC_BFR_OPERATOR",
  "SPC_BFR_PAR",
  "SPC_BFR_POINTER",
  "SPC_INSTEAD_TAB",
  "SPC_LINE_START",
  "STRUCT_TYPE_NAMING",
  "TAB_INSTEAD_SPC",
  "TAB_REPLACE_SPACE",
  "TERNARY_FBIDDEN",
  "TOO_FEW_TAB",
  "TOO_MANY_ARGS",
  "TOO_MANY_FUNCS",
  "TOO_MANY_INSTR",
  "TOO_MANY_LINES",
  "TOO_MANY_TAB",
  "TOO_MANY_TABS_FUNC",
  "TOO_MANY_TABS_TD",
  "TOO_MANY_VARS_FUNC",
  "TOO_MANY_WS",
  "TYPE_NOT_MAPPED",
  "UNION_TYPE_NAMING",
  "USER_DEFINED_TYPEDEF",
  "VAR_DECL_START_FUNC",
  "VLA_FORBIDDEN",
  "WRONG_SCOPE",
  "WRONG_SCOPE_COMMENT",
  "WRONG_SCOPE_FCT",
  "WRONG_SCOPE_VAR"]

/-- Binary search for `s` among the names at positions `lo` (included) to `hi` (excluded). -/
def searchBetween (s : String) (lo hi : Nat) : Bool :=
  if _h : lo < hi then
    let mid := (lo + hi) / 2
    match compare s (names.getD mid "") with
    | .lt => searchBetween s lo mid
    | .gt => searchBetween s (mid + 1) hi
    | .eq => true
  else false
termination_by hi - lo

/-- Whether an identifier has a documentation page. -/
def isKnown (s : String) : Bool := searchBetween s 0 names.size

end LintBridge.KnownErrors
