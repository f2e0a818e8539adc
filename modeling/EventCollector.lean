import EventCollector.DeadLetterRecovery
import EventCollector.DrainEquivalence
import EventCollector.InsertOverlap
import EventCollector.ProcessCrash
import EventCollector.ProgramShutdown
import EventCollector.QueueWakeup
import EventCollector.RateEnforcement
import EventCollector.ScheduleIndependence
import EventCollector.ServiceDelivery
import EventCollector.SessionTimeout
import EventCollector.StartupRelease
