import LoxExpr.Main
import LoxExpr.Proofs.Stages
import LoxExpr.Proofs.Session
import LoxExpr.Proofs.Diagnostics
import LoxExpr.Proofs.Command.Expression
import LoxExpr.Proofs.Command.Interaction
import LoxExpr.Proofs.Expr.RoundTrip
import LoxExpr.Proofs.Token.Joined
import LoxExpr.Proofs.Expr.PassiveLines
import LoxExpr.Proofs.Token.Relaid
import LoxExpr.Proofs.Expr.Untaken
import LoxExpr.Proofs.Expr.NumberLiteral
import LoxExpr.Proofs.Expr.NumberText
import LoxExpr.Proofs.Expr.UniqueText
import LoxExpr.Proofs.Expr.PlusChains
import LoxExpr.Proofs.Expr.Slices
import LoxExpr.Proofs.Settings.Fields
import LoxExpr.Proofs.Expr.Requests
import LoxExpr.Proofs.Token.Steps
import LoxExpr.Proofs.Token.Closings
