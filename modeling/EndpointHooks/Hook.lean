import EndpointHooks.Naming
import EndpointHooks.TypeScript.Printer

/-! The module of an endpoint: an interface for the parameters of the hook, and the hook itself, a
constant function that wraps one query. The query is named by a cache key, and its fetcher fails
unless the query service is there. -/

namespace EndpointHooks

open TypeScript

namespace Synthesis

def dataParam : String := "TData"

def baseInterface : String := "ReactQueryParams"

def queryFunction : String := "useQuery"

/-- The object whose methods do the requests. -/
def queryService : String := "queryService"

def errorClass : String := "Error"

def requestParam : String := "request"

def optionsParam : String := "options"

/-- What is thrown without a query service. -/
def serviceMissing : String := "Query Service not initialized"

def paramsInterface (names : HookNames) : Interface :=
  { name := names.queryInterface
    typeParams := [⟨dataParam, none⟩]
    parents := [.mk baseInterface [.named names.responseType, .named dataParam]]
    properties := [⟨requestParam, .named names.requestType, true⟩] }

/-- The fetcher: a check for the query service, then the call of its method. -/
def fetcher (names : HookNames) : Expr :=
  .arrow [] []
    [.when (.not (.ident queryService))
      (.throw (.construct (.ident errorClass) [.str serviceMissing])),
     .ret (.call (.member (.ident queryService) names.serviceMethod) [] [.ident requestParam])]

def queryCall (names : HookNames) : Expr :=
  .call (.ident queryFunction)
    [.named names.responseType, .named errorClass, .named dataParam]
    [.array [.str names.cacheKey, .ident requestParam], fetcher names, .ident optionsParam]

def hookConstant (names : HookNames) : Constant :=
  { name := names.hook
    value :=
      .arrow [⟨dataParam, some (.named names.responseType)⟩]
        [⟨[requestParam, optionsParam], .mk names.queryInterface [.named dataParam]⟩]
        [.ret (queryCall names)] }

end Synthesis

/-- The module for the names of a hook. The interface is always exported. -/
def HookNames.module (names : HookNames) (exportHook : Bool) : Module :=
  ⟨[⟨true, .interface (Synthesis.paramsInterface names)⟩,
    ⟨exportHook, .constant (Synthesis.hookConstant names)⟩]⟩

/-- The names of an endpoint with the module built from them. -/
structure Hook where
  names : HookNames
  module : Module
  deriving DecidableEq

def Endpoint.hook (e : Endpoint) (exportHook : Bool) : Hook :=
  ⟨e.hookNames, e.hookNames.module exportHook⟩

end EndpointHooks
