import ServiceContainer.Error

/-!
# Errors of modules

What can go wrong in reading declarations from the items of a module and in expanding a module. A text that does not
follow the grammar has no message of its own.

## Main definitions

* `ModuleError`, `ModuleError.message?` — the errors and their texts
-/

namespace ServiceContainer

/-- Errors of modules. -/
inductive ModuleError where
  /-- The text does not follow the grammar. -/
  | malformed
  | unknownMarkerArgument (name : String)
  | repeatedKey
  | repeatedLifetime
  /-- A marker that is given a value. -/
  | markerForm
  | repeatedBase
  /-- A module without braces. -/
  | noBody
  /-- A setting whose value is no string. -/
  | settingValue
  | unknownSetting
  | generation (cause : GenerationError)
  deriving DecidableEq, Repr

/-- The text of the error. -/
def ModuleError.message? : ModuleError → Option String
  | .malformed => none
  | .unknownMarkerArgument name => some ("未知的服务标记参数 `" ++ name ++ "`")
  | .repeatedKey => some "重复的 `key` 参数"
  | .repeatedLifetime => some "服务标记只能声明一个生命周期"
  | .markerForm => some "服务标记的写法为 #[service(singleton | transient | scoped[, key = Type])]"
  | .repeatedBase => some "一个类型只能声明一个基类型"
  | .noBody => some "#[service_module] 只能用于内联模块 `mod name \x7b ... \x7d`"
  | .settingValue => some "参数值必须是字符串"
  | .unknownSetting => some "未知的 service_module 参数"
  | .generation cause => some cause.message

end ServiceContainer
