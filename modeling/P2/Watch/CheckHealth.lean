import P2.Watch.Basic

/-!
# One health check

`StatusChecker.Check` makes one GET request to the status URI of its service and classifies
what came back; `checkHealth`, one turn of a worker's loop, publishes the result through the
pod's updater unless the check returned an error. The request itself, `Client.Get`, is the
outside world: a probe is whatever it returned, a response or not and an error or not.

A transport error or a missing response gives a critical result with the error's text as its
output, and it is published. A response gives a result that is passing exactly when its
status code is in `[200, 300)`, with the body as its output, and it is published, unless
reading the body fails: `resultFromCheck` then still classifies the response by its status
code, with an empty output, but returns the read error with it, and `checkHealth` only logs
the error and publishes nothing.
-/

namespace P2.Watch

/-- The fields of an `*http.Response` a status check reads: its status code, and what reading
its body to the end gives, the body or the read error. -/
structure Response where
  statusCode : Int
  body : Except String String

/-- `getBody`: read the whole body, then close it; the body, or `""` and the read error. -/
def getBody (resp : Response) : String × Option String :=
  match resp.body with
  | .ok body => (body, none)
  | .error err => ("", some err)

/-- `resultFromCheck`: classify what the status request returned, the response `resp` if any
and the error `err` if any. -/
def resultFromCheck (sc : StatusChecker) (resp : Option Response) (err : Option String) :
    Result × Option String :=
  match resp, err with
  | some resp, none =>
    ({ id := sc.id, node := sc.node, service := sc.id, output := (getBody resp).1,
        status := if 200 ≤ resp.statusCode ∧ resp.statusCode < 300 then .passing else .critical },
      (getBody resp).2)
  | _, _ =>
    ({ id := sc.id, node := sc.node, service := sc.id, status := .critical,
       output := err.getD "" }, none)

/-- `StatusChecker.Check`, given what `sc.Client.Get(sc.URI)` returned. -/
def StatusChecker.check (sc : StatusChecker) (probe : Option Response × Option String) :
    Result × Option String :=
  resultFromCheck sc probe.1 probe.2

/-- `resToKPRes`: a result as the health updater writes it. -/
def resToKPRes (res : Result) : WatchResult where
  service := res.service
  node := res.node
  id := res.id
  status := res.status.toString
  output := res.output

/-- `PodWatch.checkHealth`, given what the status request returned: the result it publishes
through `p.updater`, if any. An error of the check is only logged. -/
def PodWatch.checkHealth (p : PodWatch) (probe : Option Response × Option String) :
    Option WatchResult :=
  match p.statusChecker.check probe with
  | (health, none) => some (resToKPRes health)
  | (_, some _) => none

end P2.Watch
