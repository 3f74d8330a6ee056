import ServiceContainer.Container

/-!
# The source of a container

The module that a container is generated as. It defines the two provider types with their states, and implements on
them what the runtime library asks of a provider.

## Main definitions

* `words`, `parens`, `brackets`, `braces` — the parts that the source is put together from
* `Provider.rootItems`, `Provider.scopedItems` — the items of the two providers
* `Container.moduleTrees` — the module
* `Container.source` — the text of the generated file
-/

namespace ServiceContainer

open Syntax

/-! ### Parts -/

/-- The parts of a text between its spaces. -/
def splitSpaces : List Char → List (List Char)
  | [] => [[]]
  | c :: rest =>
    match splitSpaces rest with
    | [] => [[c]]
    | part :: parts => if c == ' ' then [] :: part :: parts else (c :: part) :: parts

/-- The trees of a word: a name, a lifetime, or an operator. -/
def wordTrees (word : List Char) : List Tree :=
  match word with
  | [] => []
  | '\x27' :: name => [.lifetime (String.ofList name)]
  | c :: _ => if c.isAlpha || c == '_' then [.ident (String.ofList word)] else marks word

/-- The trees of words with a space between any two of them. -/
def words (text : String) : List Tree := (splitSpaces text.toList).flatMap wordTrees

/-- A group in parentheses. -/
def parens (inner : List Tree) : List Tree := [.group .paren inner]

/-- A group in square brackets. -/
def brackets (inner : List Tree) : List Tree := [.group .bracket inner]

/-- A group in braces. -/
def braces (inner : List Tree) : List Tree := [.group .brace inner]

/-- A line of documentation. -/
def documentation (line : String) : List Tree :=
  words "#" ++ brackets (words "doc =" ++ [.literal ("r\"" ++ line ++ "\"")])

/-- The type that shares a value. -/
def sharedType (inner : List Tree) (close : String) : List Tree :=
  words ":: std :: rc :: Rc <" ++ inner ++ words close

/-- A new shared value. -/
def newShared (inner : List Tree) : List Tree := words ":: std :: rc :: Rc :: new" ++ parens inner

/-- A default value. -/
def defaultValue : List Tree := words ":: std :: default :: Default :: default" ++ parens []

/-- The expression for success. -/
def success (inner : List Tree) : List Tree := words ":: std :: result :: Result :: Ok" ++ parens inner

/-- The trees with a separator between any two. -/
def joinTrees (separator : List Tree) : List (List Tree) → List Tree
  | [] => []
  | [x] => x
  | x :: rest => x ++ separator ++ joinTrees separator rest

variable (rt : List Tree)

/-- A name of the runtime library. -/
def fromRuntime (name : String) : List Tree := rt ++ words (":: " ++ name)

/-- The type of a result that shares a value of a type. -/
def resultType (inner : List Tree) : List Tree :=
  fromRuntime rt "DependencyResult <" ++ sharedType inner ">>"

/-! ### Construction -/

/-- The request for a dependency, which passes an error on. -/
def requestTrees (key : TypeExpr) : List Tree :=
  words "self . get_required_service :: <" ++ [key.tree] ++ words ">" ++ parens [] ++ words "?"

/-- The expression for an argument. -/
def Argument.trees : Argument → List Tree
  | .shared key => requestTrees key
  | .cloned key => words ":: std :: clone :: Clone :: clone" ++ parens (words "& *" ++ requestTrees key)
  | .provider => words "self"

/-- A function of a type, called with arguments. -/
def callTrees (type : TypeExpr) (function : String) (arguments : List Tree) : List Tree :=
  words "<" ++ [type.tree] ++ words "> ::" ++ .ident function :: parens arguments

/-- The default value of a type. -/
def defaultTrees (type : TypeExpr) : List Tree :=
  words "<" ++ [type.tree] ++ words "as :: std :: default :: Default > :: default" ++ parens []

/-- The expression that makes an instance. -/
def Construct.trees : Construct → List Tree
  | .factory type method => callTrees type method (words "self")
  | .constructor type function arguments =>
    callTrees type function (joinTrees (words ",") (arguments.map Argument.trees))
  | .unitLiteral type => type.expressionPath?.getD (defaultTrees type)
  | .default type => defaultTrees type

/-! ### Members -/

/-- The statement that gets the instance of a service. -/
def Body.trees : Body → List Tree
  | .memoized cell type construct =>
    words "let instance :" ++ sharedType [type.tree] ">" ++ words "= self . state ." ++ .ident cell ::
      words ". get_or_try_init"
      ++ parens (words "|| ->" ++ resultType rt [type.tree] ++ braces (success (newShared construct.trees)))
      ++ words "? . clone" ++ parens [] ++ words ";"
  | .fresh type construct =>
    words "let instance :" ++ sharedType [type.tree] ">" ++ words "=" ++ newShared construct.trees ++ words ";"

/-- The function that delivers a service. -/
def Accessor.trees (a : Accessor) : List Tree :=
  words "fn" ++ .ident a.name :: parens (words "& self") ++ words "->" ++ resultType rt [a.key.tree]
    ++ braces (a.body.trees rt ++ words "let service :" ++ sharedType [a.key.tree] ">"
      ++ words "= instance ;" ++ success (words "service"))

/-- The case of a request for a key. -/
def Lookup.trees (l : Lookup) : List Tree :=
  words "if service_type == :: std :: any :: TypeId :: of :: <" ++ [l.key.tree] ++ words ">" ++ parens []
    ++ braces (words "return self ." ++ .ident l.accessor :: parens [] ++ words ". map"
      ++ parens (words "| service | :: std :: option :: Option :: Some"
        ++ parens (fromRuntime rt "into_instance" ++ parens (words "service"))) ++ words ";")

/-- What follows the cases of a request. -/
def ProviderKind.fallback : ProviderKind → List Tree
  | .root => success (words ":: std :: option :: Option :: None")
  | .scoped =>
    fromRuntime rt "ServiceProvider :: get_service_by_type"
      ++ parens (words "& * self . parent , service_type")

/-- The function that answers a request for a key. -/
def Provider.lookupTrees (p : Provider) : List Tree :=
  words "fn get_service_by_type"
    ++ parens (words "& self , service_type : :: std :: any :: TypeId ,") ++ words "->"
    ++ fromRuntime rt "DependencyResult < :: std :: option :: Option <"
    ++ fromRuntime rt "ServiceInstance >>"
    ++ braces (p.lookups.flatMap (Lookup.trees rt) ++ p.kind.fallback rt)

/-- The statement that disposes of the instance in a cell. -/
def disposalTrees (cell : String) : List Tree :=
  words "if let :: std :: option :: Option :: Some" ++ parens (words "instance") ++ words "= self . state ."
    ++ .ident cell :: words ". get" ++ parens []
    ++ braces (fromRuntime rt "Disposable :: dispose" ++ parens (words "& * * instance") ++ words ";")

/-- The function that disposes of what a provider keeps. -/
def Provider.disposeTrees (p : Provider) : List Tree :=
  words "fn dispose" ++ parens (words "& self") ++ braces (p.disposals.flatMap (disposalTrees rt))

/-- The type that holds the cells. -/
def Provider.stateTrees (p : Provider) : List Tree :=
  words "#" ++ brackets (words "derive" ++ parens (words "Default")) ++ words "struct" ++ .ident p.stateType ::
    braces (p.cells.flatMap fun cell =>
      .ident cell.name :: words ":" ++ fromRuntime rt "OnceCell <"
        ++ sharedType [cell.implementation.tree] ">>" ++ words ",")

/-- A public function that forwards to the runtime library; `close` is what its result type ends with. -/
def forwarder (name : String) (result : List Tree) : List Tree :=
  words ("pub fn " ++ name ++ " < T >") ++ parens (words "& self") ++ words "->" ++ result
    ++ words "where T : ? Sized + 'static ,"
    ++ braces (fromRuntime rt ("ServiceProviderExt :: " ++ name ++ " :: < T >") ++ parens (words "self"))

/-- The public functions that both providers have. -/
def forwarders : List Tree :=
  documentation " 获取服务，未注册时返回 `Ok(None)`"
    ++ forwarder rt "get_service"
      (fromRuntime rt "DependencyResult < :: std :: option :: Option <" ++ sharedType (words "T") ">> >")
    ++ documentation " 获取必需的服务，未注册时返回 `ServiceNotRegistered`"
    ++ forwarder rt "get_required_service" (resultType rt (words "T"))

/-- A public type whose values can be cloned. -/
def clonableType (name : String) (fields : List Tree) : List Tree :=
  words "#" ++ brackets (words "derive" ++ parens (words "Clone")) ++ words "pub struct" ++ .ident name ::
    braces fields

/-- The field that shares the cells. -/
def Provider.stateField (p : Provider) : List Tree :=
  words "state :" ++ sharedType [.ident p.stateType] ">" ++ words ","

/-- The expression for new cells. -/
def newState : List Tree := words "state :" ++ newShared defaultValue ++ words ","

/-- The type of a shared provider of any kind. -/
def sharedProvider : List Tree := sharedType (words "dyn" ++ fromRuntime rt "ServiceProvider") ">"

/-! ### Providers -/

/-- The items of the root provider, which makes scopes of the scoped provider. -/
def Provider.rootItems (p : Provider) (inScope : String) : List Tree :=
  let name := Tree.ident p.name
  documentation " 根服务提供者，持有单例与瞬时服务" ++ documentation ""
    ++ documentation " 克隆得到的句柄共享同一组单例。提供者是单线程的。"
    ++ clonableType p.name p.stateField ++ p.stateTrees rt
    ++ words "impl" ++ name ::
      braces (documentation " 创建新的根服务提供者" ++ words "pub fn new" ++ parens [] ++ words "-> Self"
        ++ braces (words "Self" ++ braces newState)
        ++ forwarders rt ++ p.accessors.flatMap (Accessor.trees rt))
    ++ words "impl :: std :: default :: Default for" ++ name ::
      braces (words "fn default" ++ parens [] ++ words "-> Self"
        ++ braces (words "Self :: new" ++ parens []))
    ++ words "impl" ++ fromRuntime rt "ServiceProvider for" ++ name ::
      braces (p.lookupTrees rt ++ words "fn create_scope" ++ parens (words "& self") ++ words "->"
        ++ fromRuntime rt "ServiceScope"
        ++ braces (fromRuntime rt "ServiceScope :: new" ++ parens (.ident inScope :: words ":: new"
          ++ parens (newShared (words "self . clone" ++ parens []))))
        ++ p.disposeTrees rt)

/-- The items of the scoped provider. -/
def Provider.scopedItems (p : Provider) : List Tree :=
  let name := Tree.ident p.name
  documentation " 作用域服务提供者，持有作用域服务并把其余请求委托给父提供者" ++ documentation ""
    ++ documentation " 克隆得到的句柄共享同一组作用域实例。"
    ++ clonableType p.name (words "parent :" ++ sharedProvider rt ++ words "," ++ p.stateField) ++ p.stateTrees rt
    ++ words "impl" ++ name ::
      braces (documentation " 在给定父提供者之上创建作用域提供者"
        ++ words "pub fn new" ++ parens (words "parent :" ++ sharedProvider rt) ++ words "-> Self"
        ++ braces (words "Self" ++ braces (words "parent ," ++ newState))
        ++ forwarders rt ++ p.accessors.flatMap (Accessor.trees rt))
    ++ words "impl" ++ fromRuntime rt "ServiceProvider for" ++ name ::
      braces (p.lookupTrees rt ++ documentation " 嵌套作用域与本作用域共享作用域实例，释放仍由本作用域负责"
        ++ words "fn create_scope" ++ parens (words "& self") ++ words "->" ++ fromRuntime rt "ServiceScope"
        ++ braces (fromRuntime rt "ServiceScope :: nested" ++ parens (words "self . clone" ++ parens []))
        ++ p.disposeTrees rt)

/-! ### The module -/

/-- The lints that the module is free of. -/
def allowances : List Tree :=
  words "# !" ++ brackets (words "allow" ++ parens (words
    "dead_code , unused_imports , unused_variables , missing_docs , non_snake_case , clippy :: all"))

/-- The module of a container. -/
def Container.moduleTrees (c : Container) : List Tree :=
  documentation " 编译期生成的服务容器" ++ words "pub mod" ++ .ident c.moduleName ::
    braces (allowances ++ words "use super :: * ;"
      ++ c.rootProvider.rootItems c.runtime c.scopedProvider.name ++ c.scopedProvider.scopedItems c.runtime)

/-- The first line of a generated file. -/
def header : String := "// @generated by di-codegen. 请勿手动修改。\n"

/-- The text of a generated file with the module. -/
def fileText (module : List Tree) : String := header ++ spacedText module ++ "\n"

/-- The text of the generated file. -/
def Container.source (c : Container) : String := fileText c.moduleTrees

end ServiceContainer
