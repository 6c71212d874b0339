import Logline.Level
import Logline.Pattern.Template

/-!
# Reports

What the program has to say about its own work: that a configuration was loaded, or that an option
was ignored.  A computation only collects its reports; whether they are written is up to the
diagnostic log.

## What is here

* `Report` — level, scope and message, and `Report.line`, the line it is written as.
* `Reported` — a value with the reports made on the way to it, in order.
-/

set_option autoImplicit false
namespace Logline

/-- Something the program says about its own work. -/
structure Report where
  level : Level
  /-- The part of the program that speaks. -/
  scope : String
  message : String
  deriving DecidableEq, Repr

namespace Report

/-- The template of the lines: time of day, level, scope and message. -/
def template : Template := Template.parse "[%T] [%L] %P: %M\n"

/-- What the codes of the template stand for; `clock` is the time of day. -/
def field (r : Report) (clock : Bytes) : Code → Bytes
  | .time => clock
  | .level => Bytes.ofText r.level.label
  | .component => Bytes.ofText r.scope
  | .message => Bytes.ofText r.message
  | _ => []

/-- The line of a report. -/
def line (clock : Bytes) (r : Report) : Bytes := template.fill (r.field clock)

end Report

/-- A value with the reports made on the way to it. -/
structure Reported (α : Type) where
  reports : List Report
  value : α

namespace Reported

instance : Monad Reported where
  pure a := ⟨[], a⟩
  bind x f := ⟨x.reports ++ (f x.value).reports, (f x.value).value⟩

/-- Makes one report. -/
def say (level : Level) (scope message : String) : Reported Unit := ⟨[⟨level, scope, message⟩], ()⟩

@[simp] theorem reports_pure {α : Type} (a : α) : (pure a : Reported α).reports = [] := rfl

@[simp] theorem value_pure {α : Type} (a : α) : (pure a : Reported α).value = a := rfl

@[simp] theorem reports_bind {α β : Type} (x : Reported α) (f : α → Reported β) :
    (x >>= f).reports = x.reports ++ (f x.value).reports := rfl

@[simp] theorem value_bind {α β : Type} (x : Reported α) (f : α → Reported β) :
    (x >>= f).value = (f x.value).value := rfl

end Reported
end Logline
