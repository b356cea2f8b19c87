import BroadView.Bst.Encoder.Realm

namespace BroadView.Bst

open Buffer

def cpuqEncoder : RealmEncoder :=
  { realmTemplate := " \x7b \"realm\": \"egress-cpu-queue\", \"%s\": [ "
    dataTemplate := " [  %d , %lu, %lu ] ,"
    count := fun asic => asic.numCpuQueues
    counters := fun snapshot _ queue =>
      [(snapshot.cpqQ queue).cpuBufferCount, (snapshot.cpqQ queue).cpuQueueEntries]
    maxima := fun max _ queue => [some (max.cpqQ queue), none] }

def rqeqEncoder : RealmEncoder :=
  { realmTemplate := " \x7b \"realm\": \"egress-rqe-queue\", \"%s\": [ "
    dataTemplate := " [  %d , %lu, %lu ] ,"
    count := fun asic => asic.numRqeQueues
    counters := fun snapshot _ queue =>
      [(snapshot.rqeQ queue).rqeBufferCount, (snapshot.rqeQ queue).rqeQueueEntries]
    maxima := fun max _ queue => [some (max.rqeQ queue), none] }

def mcqEncoder : RealmEncoder :=
  { realmTemplate := " \x7b \"realm\": \"egress-mc-queue\", \"%s\": [ "
    dataTemplate := " [  %d , \"%s\" ,  %lu, %lu ] ,"
    count := fun asic => asic.numMulticastQueues
    counters := fun snapshot _ queue =>
      [(snapshot.eMcQ queue).mcBufferCount, (snapshot.eMcQ queue).mcQueueEntries]
    maxima := fun max _ queue => [some (max.eMcQ queue), none]
    queuePort := fun snapshot queue => some (snapshot.eMcQ queue).port }

def ucqEncoder : RealmEncoder :=
  { realmTemplate := " \x7b \"realm\": \"egress-uc-queue\", \"%s\": [ "
    dataTemplate := " [  %d , \"%s\" , %lu ] ,"
    count := fun asic => asic.numUnicastQueues
    counters := fun snapshot _ queue => [(snapshot.eUcQ queue).ucBufferCount]
    maxima := fun max _ queue => [some (max.eUcQ queue)]
    queuePort := fun snapshot queue => some (snapshot.eUcQ queue).port }

def ucqgEncoder : RealmEncoder :=
  { realmTemplate := " \x7b \"realm\": \"egress-uc-queue-group\", \"%s\": [ "
    dataTemplate := " [  %d , %lu ] ,"
    count := fun asic => asic.numUnicastQueueGroups
    counters := fun snapshot _ qg => [(snapshot.eUcQg qg).ucBufferCount]
    maxima := fun max _ qg => [some (max.eUcQg qg)] }

def espEncoder : RealmEncoder :=
  { realmTemplate := " \x7b \"realm\": \"egress-service-pool\", \"%s\": [ "
    dataTemplate := " [  %d , %lu , %lu, %lu ] ,"
    count := fun asic => asic.numServicePools
    counters := fun snapshot _ pool =>
      [(snapshot.eSp pool).umShareBufferCount, (snapshot.eSp pool).mcShareBufferCount,
        (snapshot.eSp pool).mcShareQueueEntries]
    maxima := fun max _ pool =>
      [some (max.eSp pool).umShareMaxBuf, some (max.eSp pool).mcShareMaxBuf, none] }

-- The call passes four counters to a template for three.
def epspEncoder : RealmEncoder :=
  { realmTemplate := " \x7b \"realm\": \"egress-port-service-pool\", \"%s\": [ "
    dataTemplate := " [  %d , %lu , %lu , %lu ] ,"
    count := fun asic => asic.numServicePools
    counters := fun snapshot port pool =>
      [(snapshot.ePortSp port pool).ucShareBufferCount,
        (snapshot.ePortSp port pool).umShareBufferCount,
        (snapshot.ePortSp port pool).mcShareBufferCount,
        (snapshot.ePortSp port pool).mcShareQueueEntries]
    maxima := fun max port pool =>
      [some (max.ePortSp port pool).ucShareMaxBuf, some (max.ePortSp port pool).umShareMaxBuf,
        some (max.ePortSp port pool).mcShareMaxBuf, none] }

def jsonencode_report_egress_cpuq (input : ReportInput) : List Op :=
  encode_index_realm cpuqEncoder input

def jsonencode_report_egress_rqeq (input : ReportInput) : List Op :=
  encode_index_realm rqeqEncoder input

def jsonencode_report_egress_mcq (input : ReportInput) : List Op :=
  encode_index_realm mcqEncoder input

def jsonencode_report_egress_ucq (input : ReportInput) : List Op :=
  encode_index_realm ucqEncoder input

def jsonencode_report_egress_ucqg (input : ReportInput) : List Op :=
  encode_index_realm ucqgEncoder input

def jsonencode_report_egress_sp (input : ReportInput) : List Op :=
  encode_index_realm espEncoder input

def jsonencode_report_egress_epsp (input : ReportInput) : List Op :=
  encode_port_realm epspEncoder input

-- The separator after the last realm is always given up.
def jsonencode_report_egress (input : ReportInput) : List Op :=
  let flags := input.options.includes
  (if flags.egressCpuQueue then jsonencode_report_egress_cpuq input else []) ++
    (if flags.egressMcQueue then jsonencode_report_egress_mcq input else []) ++
    (if flags.egressPortServicePool then jsonencode_report_egress_epsp input else []) ++
    (if flags.egressRqeQueue then jsonencode_report_egress_rqeq input else []) ++
    (if flags.egressServicePool then jsonencode_report_egress_sp input else []) ++
    (if flags.egressUcQueue then jsonencode_report_egress_ucq input else []) ++
    (if flags.egressUcQueueGroup then jsonencode_report_egress_ucqg input else []) ++
    [.back]

end BroadView.Bst
