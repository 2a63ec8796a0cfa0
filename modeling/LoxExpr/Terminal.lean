import LoxExpr.Command.Console
import LoxExpr.Terminal.Emoji
import LoxExpr.Terminal.Table

/-!
# The terminal

The console of the program: eighty columns without colours, in which long lines are not cut.
-/

namespace LoxExpr.Terminal

def console : Command.Console where
  line text := shown text ++ "\n"
  table := Table.render
  prompt text := shown (.ofList (Emoji.replaceCodes text.toList))

end LoxExpr.Terminal
