import KucoinPro.Json

namespace KucoinPro

namespace Web

inductive Method where
  | get
  | post
  deriving DecidableEq, Repr

inductive Accept where
  | applicationJson
  deriving DecidableEq, Repr

inductive ContentType where
  | undefined
  | applicationJson
  deriving DecidableEq, Repr

inductive QualityOfService where
  | undefined
  | immediate
  deriving DecidableEq, Repr

-- web::rest::Request
structure Request where
  method : Method
  path : String
  query : String
  accept : Accept
  contentType : ContentType
  headers : String
  body : String
  qualityOfService : QualityOfService
  deriving DecidableEq, Repr

inductive Category where
  | unknown
  | informationalResponse
  | success
  | redirection
  | clientError
  | serverError
  deriving DecidableEq, Repr

def STATUS_OK : Nat := 200

structure Result where
  status : Nat
  category : Category
  body : String
  deriving DecidableEq, Repr

-- web::rest::Response: result() throws on a network error, expect(OK) throws
-- `unexpected`. 200 is a status of the category SUCCESS only.
structure Response where
  result : Except Exception Result
  unexpected : Exception
  proper : ∀ r, result = .ok r → r.category = .unknown ∨ r.category = .informationalResponse → r.status ≠ STATUS_OK

def Response.expect (response : Response) (r : Result) : Except Exception Unit :=
  if r.status = STATUS_OK then .ok () else .error response.unexpected

def Method.text : Method → String
  | .get => "GET"
  | .post => "POST"

end Web

-- tools::Crypto. `sign` is the keyed MAC with its base64 text.
structure Crypto where
  key : String
  signedPassphrase : String
  sign : String → String

def Crypto.createHeaders (crypto : Crypto) (method : Web.Method) (path query body : String) (timestamp : Nat) : String :=
  let signature := crypto.sign (toString timestamp ++ method.text ++ path ++ query ++ body)
  "KC-API-KEY: " ++ crypto.key ++ "\r\n" ++
  "KC-API-SIGN: " ++ signature ++ "\r\n" ++
  "KC-API-TIMESTAMP: " ++ toString timestamp ++ "\r\n" ++
  "KC-API-PASSPHRASE: " ++ crypto.signedPassphrase ++ "\r\n" ++
  "KC-API-KEY-VERSION: 3\r\n"

def Crypto.createWsAuth (crypto : Crypto) (message : String) : String := crypto.sign message

structure Account where
  name : String
  master : Bool
  crypto : Crypto

-- nanoseconds => milliseconds
def milliseconds (t : Nanoseconds) : Nat := t / 1000000

def Account.createHeaders (account : Account) (traceInfo : TraceInfo) (method : Web.Method) (path query body : String) : String :=
  account.crypto.createHeaders method path query body (milliseconds traceInfo.originCreateTimeUtc)

def Account.createWsAuth (account : Account) (message : String) : String := account.crypto.createWsAuth message

namespace API
namespace restPublic
def assetCurrencies := "/api/ua/v2/asset/currencies"
def marketInstrument := "/api/ua/v2/market/instrument"
def marketOrderbook := "/api/ua/v2/market/orderbook"
end restPublic
namespace restPrivate
def bulletPrivate := "/api/v2/bullet-private"
def accountBalance := "/api/ua/v2/unified/account/balance"
def positionOpenList := "/api/ua/v2/unified/position/open-list"
def orderOpenList := "/api/ua/v2/unified/order/open-list"
def orderDetails := "/api/ua/v2/unified/order/detail"
def orderExecution := "/api/ua/v2/unified/order/execution"
def orderPlace := "/api/ua/v2/unified/order/place"
def orderCancel := "/api/ua/v2/unified/order/cancel"
def orderCancelAll := "/api/ua/v2/unified/order/cancel-all"
end restPrivate
def ticker := "ticker"
def trade := "trade"
def obu := "obu"
end API

structure Settings where
  exchange : String
  wsRequestTimeout : Nanoseconds
  experimentalSimulateExpiredToken : Nanoseconds
  downloadTradesLookback : Nanoseconds
  experimentalCheckStaleOrderFreq : Nanoseconds
  experimentalRetryLogon : Bool

-- What the streams of one account are constructed with.
structure Config where
  account : Account
  settings : Settings
  platform : Platform
  orderEntryStreamId : Nat
  dropCopyStreamId : Nat

end KucoinPro
