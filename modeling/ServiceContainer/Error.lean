/-!
# Errors

What can go wrong in reading options and declarations, in generating a container, and in asking a container for a
service. An error is a cause; its text is a function of it. Where the cause is a text of another format that does not
parse, the place in that text is not part of the cause.

## Main definitions

* `Defect` — why a document does not parse
* `ConfigError`, `GenerationError`, `DependencyError` — the errors
* `ConfigError.message`, `GenerationError.message`, `DependencyError.message` — their texts
-/

namespace ServiceContainer

/-- Why a document does not parse. -/
inductive Defect where
  | missingField (name : String)
  | unknownField (name : String)
  | duplicateField (name : String)
  /-- A value of the wrong type or length. -/
  | shape
  /-- The text does not follow the format. -/
  | malformed
  /-- An option file does not follow its format, or is no table. -/
  | optionFile
  /-- An option has a value of the wrong type, or comes from a file of no known format. -/
  | optionValue
  deriving DecidableEq, Repr

/-- Errors of option files and manifests. -/
inductive ConfigError where
  | missingFile (path : String)
  | unreadable
  | unparsable (defect : Defect)
  | invalid (reason : String)
  deriving DecidableEq, Repr

/-- The text of the error. -/
def ConfigError.message : ConfigError → String
  | .missingFile path => "配置文件不存在: " ++ path
  | .unreadable => "配置文件读取失败"
  | .unparsable _ => "配置解析失败"
  | .invalid reason => "配置验证失败: " ++ reason

/-- Errors of the generation of a container; any of them ends it. -/
inductive GenerationError where
  | unknownLifetime (type marker : String)
  | missingLifetime (type : String)
  | conflictingMarkers (type sources : String)
  | duplicateKey (key first second : String)
  | identifierCollision (identifier provider first second : String)
  | invalidKey (key reason : String)
  | invalidDeclaration (reason : String)
  | config (error : ConfigError)
  deriving DecidableEq, Repr

/-- The text of the error. -/
def GenerationError.message : GenerationError → String
  | .unknownLifetime type marker => "未知的服务生命周期: " ++ type ++ " 上的标记 `" ++ marker ++ "`"
  | .missingLifetime type => "服务标记缺少生命周期: " ++ type
  | .conflictingMarkers type sources => "服务标记冲突: " ++ type ++ ", 来源: " ++ sources
  | .duplicateKey key first second =>
    "服务键重复: " ++ key ++ " (实现 " ++ first ++ " 与 " ++ second ++ ")"
  | .identifierCollision identifier provider first second =>
    "生成标识符冲突: `" ++ identifier ++ "` 在 " ++ provider ++ " 中同时对应 " ++ first ++ " 与 " ++ second
  | .invalidKey key reason => "无效的服务键: " ++ key ++ ", 原因: " ++ reason
  | .invalidDeclaration reason => "无效的声明: " ++ reason
  | .config error => "生成配置错误: " ++ error.message

/-- The error that a generation error is about, if it is about one. -/
def GenerationError.source? : GenerationError → Option ConfigError
  | .config error => some error
  | _ => none

/-- A type that does not parse. -/
def GenerationError.badType (text : String) : GenerationError :=
  .invalidDeclaration ("无法解析类型 `" ++ text ++ "`")

/-- A name that is no identifier. -/
def GenerationError.badIdentifier (text : String) : GenerationError :=
  .invalidDeclaration ("无效的标识符 `" ++ text ++ "`")

/-- A path of the runtime library that is no path. -/
def GenerationError.badRuntimePath (text : String) : GenerationError :=
  .invalidDeclaration ("无效的运行时路径 `" ++ text ++ "`")

/-- Errors of a request to a container. -/
inductive DependencyError where
  | notRegistered (type : String)
  | typeMismatch (type : String)
  deriving DecidableEq, Repr

/-- The text of the error. -/
def DependencyError.message : DependencyError → String
  | .notRegistered type => "服务未注册: " ++ type
  | .typeMismatch type => "服务实例类型不匹配: 请求 " ++ type

end ServiceContainer
