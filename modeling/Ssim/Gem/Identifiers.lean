import Mathlib.Init

/-!
# Project-defined identifiers

Collection events, reports, status variables and acknowledge codes.
-/

namespace Ssim.Gem

def kCeidControlStateChanged : UInt32 := 2001
def kCeidProcessStateChanged : UInt32 := 2002
def kCeidCassetteLoaded : UInt32 := 2003
def kCeidWaferScanStarted : UInt32 := 2004
def kCeidWaferScanComplete : UInt32 := 2005
def kCeidWaferOutOfSpec : UInt32 := 2006
def kCeidCassetteComplete : UInt32 := 2007
def kCeidRunAborted : UInt32 := 2008

def kRptidWaferResult : UInt32 := 3001
def kRptidStates : UInt32 := 3002
def kRptidScanStarted : UInt32 := 3003

def kSvidControlState : UInt32 := 4001
def kSvidProcessState : UInt32 := 4002
def kSvidCurrentWaferId : UInt32 := 4003
def kSvidCurrentSlot : UInt32 := 4004
def kSvidScanProgressPercent : UInt32 := 4005
def kSvidLastStressMpa : UInt32 := 4006
def kSvidLastCurvature : UInt32 := 4007
def kSvidLastFitRmsUm : UInt32 := 4008
def kSvidActiveAlarmCount : UInt32 := 4009
def kSvidSoftwareRevision : UInt32 := 4010
def kSvidUptimeSeconds : UInt32 := 4011
def kSvidWafersProcessed : UInt32 := 4012

/-- All status variables in SVID order; an empty S1F3 asks for these. -/
def statusVariables : List UInt32 :=
  [kSvidControlState, kSvidProcessState, kSvidCurrentWaferId, kSvidCurrentSlot,
    kSvidScanProgressPercent, kSvidLastStressMpa, kSvidLastCurvature, kSvidLastFitRmsUm,
    kSvidActiveAlarmCount, kSvidSoftwareRevision, kSvidUptimeSeconds, kSvidWafersProcessed]

/-- The field names of a report in their order; none for an unknown report. -/
def reportFields (rptid : UInt32) : List String :=
  if rptid = kRptidWaferResult then
    ["WAFER_ID", "SLOT", "STRESS_MPA", "STRESS_UNC_MPA", "CURVATURE", "FIT_RMS_UM", "OUT_OF_SPEC"]
  else if rptid = kRptidStates then
    ["CONTROL_STATE", "PROCESS_STATE"]
  else if rptid = kRptidScanStarted then
    ["WAFER_ID", "SLOT", "NUM_LINES"]
  else []

def ceidName (ceid : UInt32) : String :=
  if ceid = kCeidControlStateChanged then "ControlStateChanged"
  else if ceid = kCeidProcessStateChanged then "ProcessStateChanged"
  else if ceid = kCeidCassetteLoaded then "CassetteLoaded"
  else if ceid = kCeidWaferScanStarted then "WaferScanStarted"
  else if ceid = kCeidWaferScanComplete then "WaferScanComplete"
  else if ceid = kCeidWaferOutOfSpec then "WaferOutOfSpec"
  else if ceid = kCeidCassetteComplete then "CassetteComplete"
  else if ceid = kCeidRunAborted then "RunAborted"
  else ""

def kCommackAccepted : UInt8 := 0

def kOflackOk : UInt8 := 0

def kOnlackAccepted : UInt8 := 0
def kOnlackNotAllowed : UInt8 := 1
def kOnlackAlreadyOnline : UInt8 := 2

def kHcackDone : UInt8 := 0
def kHcackUnknownCommand : UInt8 := 1
def kHcackCannotPerformNow : UInt8 := 2
def kHcackInvalidParameter : UInt8 := 3
def kHcackAcceptedLater : UInt8 := 4

def kCpackOk : UInt8 := 0
def kCpackUnknownName : UInt8 := 1
def kCpackIllegalValue : UInt8 := 2
def kCpackIllegalFormat : UInt8 := 3

/-- ACKC5 and ACKC6. -/
def kAckAccepted : UInt8 := 0

def kAlcdSetBit : UInt8 := 0x80
def kAlarmCategory : UInt8 := 0x05

end Ssim.Gem
