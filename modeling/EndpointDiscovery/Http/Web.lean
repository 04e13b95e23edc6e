import EndpointDiscovery.Http.ContentType
import EndpointDiscovery.Http.Status
import EndpointDiscovery.Time.Duration

/-!
# The web as it answers

A web is a function from requests to replies.  It may answer the same request
differently from one time to the next.
-/

namespace EndpointDiscovery.Http

structure Response where
  status : Status := ⟨200⟩
  contentType? : Option String := none
  body : List UInt8 := []
  bodyDelay : Duration := ⟨0⟩
  breaksOff : Bool := false
deriving DecidableEq, Repr

def Response.text (response : Response) : String :=
  (ContentType.encoding (response.contentType?.getD "")).decode response.body

/-- What a request comes to, and the time until then; a request that fails
has no response. -/
structure Reply where
  delay : Duration := ⟨0⟩
  response? : Option Response := none
deriving DecidableEq, Repr

/-- The reply to a request may depend on the requests before it. -/
abbrev Web := List String → String → Reply

end EndpointDiscovery.Http
