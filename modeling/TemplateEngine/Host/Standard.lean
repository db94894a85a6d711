import TemplateEngine.Host
import TemplateEngine.Source.Meaning
import TemplateEngine.Source.Parser

/-!
# A host to run on

The program runs on a host with some of the functions and a part of the template language that are
usually at hand. It is one of the hosts that the results hold for.

## Main definitions

* `Denoted.call`: what a function that a name stands for does with a value.
* `Host.standard`: the host that the program runs on.
-/

namespace TemplateEngine

/-- What a function that a name stands for answers to a value, and what it prints. -/
def Denoted.call (found : Denoted) : HostFunction := fun v =>
  (found.apply [v], found.printed v)

/-- A host with some functions and a part of the usual template language. -/
def Host.standard : Host where
  function? name := (Denoted.resolve? name).map Denoted.call
  compile source := (Source.compile source).map Source.generate

end TemplateEngine
