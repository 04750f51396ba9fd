import FixedExtract.Text.CharacterName.Run
/-!
# Names in notations

The characters from U+1C000 to U+1EFFF: musical, mathematical and signed notation, with some late scripts.
-/

namespace FixedExtract.Text

/-- The runs of these characters, in ascending order. -/
def notationNames : List NameRun :=
  [⟨118528, ["aZNAMENNY COMBINING MARK GORAZDO NIZKO S KRYZHEM ON LEFTyNIZKO S KRYZHEM ON LEFTyTSA",
     "TA ON LEFTyGORAZDO NIZKO ON LEFTyNIZKO ON LEFTySREDNE ON LEFTyMALO POVYSHE ON LEFTyPOVYSHE O",
     "N LEFTyVYSOKO ON LEFTyMALO POVYSHE S KHOKHLOM ON LEFTyPOVYSHE S KHOKHLOM ON LEFTyVYSOKO S KH",
     "OKHLOM ON LEFTyGORAZDO NIZKO S KRYZHEM ON RIGHTyNIZKO S KRYZHEM ON RIGHTyTSATA ON RIGHTyGORA",
     "ZDO NIZKO ON RIGHTyNIZKO ON RIGHTySREDNE ON RIGHTyMALO POVYSHE ON RIGHTyPOVYSHE ON RIGHTyVYS",
     "OKO ON RIGHTyMALO POVYSHE S KHOKHLOM ON RIGHTyPOVYSHE S KHOKHLOM ON RIGHTyVYSOKO S KHOKHLOM ",
     "ON RIGHTyTSATA S KRYZHEMyMALO POVYSHE S KRYZHEMySTRANNO MALO POVYSHEyPOVYSHE S KRYZHEMziTRAN",
     "NOyVYSOKO S KRYZHEMyMALO POVYSHE STRANNOyGORAZDO VYSOKOyZELOyONyRAVNOyTIKHAYAyBORZAYAyUDARKA",
     "yPODVERTKAyLOMKAyKUPNAYAzaACHKAyZEVOKySKOBAyRAZSEKAyKRYZH ON LEFT"]⟩,
   ⟨118576, ["aZNAMENNY COMBINING TONAL RANGE MARK MRACHNOzlSVETLOzlTRESVETLOtMARK ZADERZHKAyDEMES",
     "TVENNY ZADERZHKAyOTSECHKAyPODCHASHIEzj WITH VERTICAL STROKEyCHASHKAzg POLNAYAyOBLACHKOySOROC",
     "HYA NOZHKAyTOCHKAyDVOETOCHIEtATTACHING VERTICAL OMETtMARK CURVED OMETyKRYZHtLOWER TONAL RANG",
     "E INDICATORjPRIZNAK MODIFIER LEVEL-2zh3zbDIRECTION FLIPzbKRYZHzbROG"]⟩,
   ⟨118608, ["aZNAMENNY NEUME KRYUKu TIKHYpPARAKLITpDVA V CHELNUpKLYUCHpZANOZHEKpSTOPITSAx S OCHKO",
     "MpPEREVODKAy NEPOSTOYANNAYApSTOPITSA WITH SOROCHYA NOZHKApCHELYUSTKApPALKApZAPYATAYApGOLUBCH",
     "IK BORZYzaTIKHYzaMRACHNYzaSVETLYzaTRESVETLYpVRAKHIYA PROSTAYAyMRACHNAYAySVETLAYAyTRESVETLAYA",
     "yKLYUCHEVAYA PROSTAYAzlMRACHNAYAzlSVETLAYAzlTRESVETLAYApDOUBLE ZAPYATAYApREVERSED CHELYUSTKA",
     "pDERBITSApKHAMILOpCHASHKApPODCHASHIEpSKAMEYTSA MRACHNAYAzaSVETLAYAzaTRESVETLAYAzbIKHAYApDEME",
     "STVENNY KLYUCHpSKAMEYTSA KLYUCHEVAYA SVETLAYAzhNEPOSTOYANNAYAzhVAYA TIKHAYAzaDVOECHELNAYA PR",
     "OSTAYAznSVETLAYAznNEPOSTOYANNAYAznKLYUCHEVAYAqLOZHITIEy S ZAPYATOYzaZAKRYTOEzaS KRYZHEMpKRYZ",
     "HpROGpFITApKOBYLApZMEYTSApSTATYAv S ZAPYATOYyKRYZHEMyZAPYATOY I KRYZHEMyKRYZHEM I ZAPYATOYwZ",
     "AKRYTAYAzg S ZAPYATOYwS ROGOMyDVUMYA ZAPYATYMIyZAPYATOY I PODCHASHIEMpPOLKULIZMYpSTATYA NEPO",
     "STOYANNAYArRELA PROSTAYAwMRACHNOTIKHAYAwKRYZHEVAYAwPOLUPOVODNAYAyVODNAYAwNEPOSTOYANNAYAwKLYU",
     "CHEPOVODNAYAzeNEPOSTOYANNAYAwTIKHAYA PUTNAYAwDVOECHELNAYAzgOKRYZHEVAYAzhPOVODNAYAzgAYA KLYUC",
     "HEVAYAzgOPOVODNAYA KLYUCHEVAYAwGROMNAYA WITH SINGLE ZAPYATAYAzbOPOVODNAYA WITH SINGLE ZAPYAT",
     "AYAzbNAYAzbOPOVODNAYAzl WITH DOUBLE ZAPYATAYAzcKRYZHEVAYAzm POVODNAYApMECHIKv POVODNYwKLYUCH",
     "EVOYzePOVODNYzeNEPOSTOYANNYpSTRELA TRYASOGLASNAYAzdPOVODNAYAzdSTRELNAYApOSOKAu SVETLAYAvTRES",
     "VETLAYAvKRYUKOVAYA SVETLAYAwLYUCHEVAYA SVETLAYAziNEPOSTOYANNAYApSTRELA KRYUKOVAYAzh POVODNAY",
     "AziGROMNAYA WITH SINGLE ZAPYATAYAzmOPOVODNAYA WITH SINGLE ZAPYATAYAzmNAYAzmOPOVODNAYAzw WITH",
     " DOUBLE ZAPYATAYAznKRYZHEVAYAzx POVODNAYAziTRYASKApKUFISMApOBLAKOpDUDApNEMKApPAUK"]⟩,
   ⟨118784, ["aBYZANTINE MUSICAL SYMBOL PSILIzaDASEIAzaPERISPOMENIzaOXEIA EKFONITIKONzgDIPLIzaVARE",
     "IA EKFONITIKONzhDIPLIzaKATHISTIzaSYRMATIKIzaPARAKLITIKIzaYPOKRISISzj DIPLIzaKREMASTIzaAPESO ",
     "EKFONITIKONzaEXO EKFONITIKONzaTELEIAzaKENTIMATAzaAPOSTROFOSzk DIPLIzaSYNEVMAzaTHITAzaOLIGON ",
     "ARCHAIONzaGORGON ARCHAIONzaPSILONzaCHAMILONzaVATHYzaISON ARCHAIONzaKENTIMA ARCHAIONzhTA ARCH",
     "AIONzaSAXIMATAzaPARICHONzaSTAVROS APODEXIAzaOXEIAI ARCHAIONzaVAREIAI ARCHAIONzaAPODERMA ARCH",
     "AIONzdTHEMAzaKLASMAzaREVMAzaPIASMA ARCHAIONzaTINAGMAzaANATRICHISMAzaSEISMAzbYNAGMA ARCHAIONz",
     "iMETA STAVROUzaOYRANISMA ARCHAIONzaTHEMAzaLEMOIzaDYOzaTRIAzbESSERAzaKRATIMATAzaAPESO EXO NEO",
     "zaFTHORA ARCHAIONzaIMIFTHORAzaTROMIKON ARCHAIONzaKATAVA TROMIKONzaPELASTONzbSIFISTONzaKONTEV",
     "MAzaCHOREVMA ARCHAIONzaRAPISMAzaPARAKALESMA ARCHAIONzfLITIKI ARCHAIONzaICHADINzaNANAzaPETASM",
     "AzaKONTEVMA ALLOzaTROMIKON ALLOzaSTRAGGISMATAzaGRONTHISMATAzaISON NEOzaOLIGON NEOzbXEIA NEOz",
     "aPETASTIzaKOUFISMAzaPETASTOKOUFISMAzaKRATIMOKOUFISMAzaPELASTON NEOzaKENTIMATA NEO ANOzh NEO ",
     "ANOzaYPSILIzaAPOSTROFOS NEOzjI SYNDESMOS NEOzaYPORROIzaKRATIMOYPORROONzaELAFRONzaCHAMILIzaMI",
     "KRON ISONzaVAREIA NEOzaPIASMA NEOzbSIFISTON NEOzaOMALONzaANTIKENOMAzaLYGISMAzaPARAKLITIKI NE",
     "OzfALESMA NEOzaETERON PARAKALESMAzaKYLISMAzaANTIKENOKYLISMAzaTROMIKON NEOzaEKSTREPTONzaSYNAG",
     "MA NEOzcRMAzaCHOREVMA NEOzaEPEGERMAzaSEISMA NEOzaXIRON KLASMAzaTROMIKOPSIFISTONzaPSIFISTOLYG",
     "ISMAzaTROMIKOLYGISMAzhPARAKALESMAzaPSIFISTOPARAKALESMAzaTROMIKOSYNAGMAzaPSIFISTOSYNAGMAzaGOR",
     "GOSYNTHETONzaARGOSYNTHETONzaETERON ARGOSYNTHETONzaOYRANISMA NEOzaTHEMATISMOS ESOznXOzf APLOU",
     "NzdS KAI APOTHESzaKATAVASMAzaENDOFONONzaYFEN KATOzfANOzaSTAVROSzaKLASMA ANOzaDIPLI ARCHAIONz",
     "aKRATIMA ARCHAIONzjLLOziNEOzaAPODERMA NEOzcLIzaDIPLIzaTRIPLIzbETRAPLIzaKORONISzaLEIMMA ENOS ",
     "CHRONOUzhDYO CHRONONzhTRION CHRONONziESSARON CHRONONzhIMISEOS CHRONOUzaGORGON NEO ANOzhPARES",
     "TIGMENON ARISTERAzvDEXIAzaDIGORGONzi PARESTIGMENON ARISTERA KATOzzhANOzxDEXIAzaTRIGORGONzaAR",
     "GONzaIMIDIARGONzaDIARGONzaAGOGI POLI ARGIzgARGOTERIzjIzgMETRIAziSIzgGORGIzkOTERIzgPOLI GORGI",
     "zaMARTYRIA PROTOS ICHOSzjALLI PROTOS ICHOSzjDEYTEROS ICHOSzjALLI DEYTEROS ICHOSzjTRITOS ICHO",
     "SzmFONIASzkETARTOS ICHOSzsLEGETOS ICHOSzjLEGETOS ICHOSzjPLAGIOS ICHOSzaISAKIA TELOUS ICHIMAT",
     "OSzaAPOSTROFOI TELOUS ICHIMATOSzaFANEROSIS TETRAFONIASzkMONOFONIASzkDIFONIASzaMARTYRIA VARYS",
     " ICHOSzjPROTOVARYS ICHOSzkLAGIOS TETARTOS ICHOSzaGORTHMIKON N APLOUNznDIPLOUNzaENARXIS KAI F",
     "THORA VOUzaIMIFONONzeTHORONzaFTHORA ARCHAION DEYTEROU ICHOUzhDIATONIKI PAzrNANAzhNAOS ICHOSz",
     "hDIATONIKI DIzhSKLIRON DIATONON DIzhDIATONIKI KEzrZOzrNI KATOzuANOzhMALAKON CHROMA DIFONIASz",
     "wMONOFONIASzbHTORA SKLIRON CHROMA VASISzbTHORA SKLIRON CHROMA SYNAFIzhNENANOzaCHROA ZYGOSzgK",
     "LITONzgSPATHIzaFTHORA I YFESIS TETARTIMORIONzhENARMONIOS ANTIFONIAzaYFESIS TRITIMORIONzaDIES",
     "IS TRITIMORIONziETARTIMORIONzhAPLI DYO DODEKATAzhMONOGRAMMOS TESSERA DODEKATAzhDIGRAMMOS EX ",
     "DODEKATAzhTRIGRAMMOS OKTO DODEKATAzaYFESIS APLI DYO DODEKATAzhMONOGRAMMOS TESSERA DODEKATAzh",
     "DIGRAMMOS EX DODEKATAzhTRIGRAMMOS OKTO DODEKATAzaGENIKI DIESISzhYFESISzaDIASTOLI APLI MIKRIz",
     "pEGALIzjDIPLIzjTHESEOSzaSIMANSIS THESEOSzq DISIMOUzrTRISIMOUzsETRASIMOUzjARSEOSzp DISIMOUzqT",
     "RISIMOUzrETRASIMOUzaDIGRAMMA GGzcFTOGGOS OUzaSTIGMAzaARKTIKO PAziVOUziGAziDIziKEziZOziNIzaKE",
     "NTIMATA NEO MESOzh NEO MESOzhTA NEO KATOzh NEO KATOzbLASMA KATOzaGORGON NEO KATO"]⟩,
   ⟨119040, ["aMUSICAL SYMBOL SINGLE BARLINEpDOUBLE BARLINEpFINAL BARLINEpREVERSE FINAL BARLINEpDA",
     "SHED BARLINEpSHORT BARLINEpLEFT REPEAT SIGNpRIGHT REPEAT SIGNqEPEAT DOTSpDAL SEGNOr CAPOpSEG",
     "NOpCODApREPEATED FIGURE-1zg2zg3pFERMATAw BELOWpBREATH MARKpCAESURApBRACEtKETpONE-LINE STAFFp",
     "TWO-LINE STAFFqHREE-LINE STAFFpFOUR-LINE STAFFqIVE-LINE STAFFpSIX-LINE STAFFtSTRING FRETBOAR",
     "DpFOUR-STRING FRETBOARDpG CLEFv OTTAVA ALTAzeBASSApC CLEFpF CLEFv OTTAVA ALTAzeBASSApDRUM CL",
     "EF-1za2"]⟩,
   ⟨119081, ["aMUSICAL SYMBOL MULTIPLE MEASURE RESTpDOUBLE SHARPwFLATpFLAT UPuDOWNpNATURAL UPxDOWN",
     "pSHARP UPvDOWNpQUARTER TONE SHARPzdFLATpCOMMON TIMEqUT TIMEpOTTAVA ALTAwBASSApQUINDICESIMA A",
     "LTAzdBASSApMULTI RESTpWHOLE RESTpHALF RESTpQUARTER RESTpEIGHTH RESTpSIXTEENTH RESTpTHIRTY-SE",
     "COND RESTpSIXTY-FOURTH RESTpONE HUNDRED TWENTY-EIGHTH RESTpX NOTEHEADpPLUS NOTEHEADpCIRCLE X",
     " NOTEHEADpSQUARE NOTEHEAD WHITEzgBLACKpTRIANGLE NOTEHEAD UP WHITEzlBLACKziLEFT WHITEznBLACKz",
     "iRIGHT WHITEzoBLACKziDOWN WHITEznBLACKziUP RIGHT WHITEzrBLACKpMOON NOTEHEAD WHITEzeBLACKpTRI",
     "ANGLE-ROUND NOTEHEAD DOWN WHITEztBLACKpPARENTHESIS NOTEHEADpVOID NOTEHEADpNOTEHEAD BLACKqULL",
     " NOTEHEADpCLUSTER NOTEHEAD WHITEzhBLACKpBREVEpWHOLE NOTEpHALF NOTEpQUARTER NOTEpEIGHTH NOTEp",
     "SIXTEENTH NOTEpTHIRTY-SECOND NOTEpSIXTY-FOURTH NOTEpONE HUNDRED TWENTY-EIGHTH NOTEpCOMBINING",
     " STEMzbPRECHGESANG STEMzaTREMOLO-1zi2zi3pFINGERED TREMOLO-1zh2zh3pCOMBINING AUGMENTATION DOT",
     "zaFLAG-1zf2zf3zf4zf5pBEGIN BEAMpEND BEAMpBEGIN TIEpEND TIEpBEGIN SLURpEND SLURpBEGIN PHRASEp",
     "END PHRASEpCOMBINING ACCENTzaSTACCATOzaTENUTOzaSTACCATISSIMOzaMARCATOzh-STACCATOzaACCENT-STA",
     "CCATOzaLOUREpARPEGGIATO UPzbDOWNpCOMBINING DOITzaRIPzaFLIPzaSMEARzaBENDzaDOUBLE TONGUEzaTRIP",
     "LE TONGUEpRINFORZANDOpSUBITOpZpPIANOpMEZZOpFORTEpCRESCENDOpDECRESCENDOpGRACE NOTE SLASHzbNO ",
     "SLASHpTRqURNpINVERTED TURNpTURN SLASHuUPpORNAMENT STROKE-1zg2zg3zg4zg5zg6zg7zg8zg9zg10zh1pHA",
     "UPTSTIMMEpNEBENSTIMMEpEND OF STIMMEpDEGREE SLASHpCOMBINING DOWN BOWzaUP BOWzaHARMONICzaSNAP ",
     "PIZZICATOpPEDAL MARKvUP MARKpHALF PEDAL MARKpGLISSANDO UPzaDOWNpWITH FINGERNAILSpDAMPt ALLpM",
     "AXIMApLONGApBREVISpSEMIBREVIS WHITEzbBLACKpMINIMAv BLACKpSEMIMINIMA WHITEzbBLACKpFUSA WHITEu",
     "BLACKpLONGA PERFECTA RESTvIMPERFECTA RESTpBREVIS RESTpSEMIBREVIS RESTpMINIMA RESTpSEMIMINIMA",
     " RESTpTEMPUS PERFECTUM CUM PROLATIONE PERFECTAzwIMPERFECTAzwPERFECTA DIMINUTION-1wIMPERFECTU",
     "M CUM PROLATIONE PERFECTAzyIMPERFECTAzzj DIMINUTION-1zzv2zzv3pCROIXpGREGORIAN C CLEFzaF CLEF",
     "pSQUARE BpVIRGApPODATUSpCLIVISpSCANDICUSpCLIMACUSpTORCULUSpPORRECTUSy FLEXUSpSCANDICUS FLEXU",
     "SpTORCULUS RESUPINUSpPES SUBPUNCTISpKIEVAN C CLEFwEND OF PIECEwFINAL NOTEwRECITATIVE MARKwWH",
     "OLE NOTEwHALF NOTEwQUARTER NOTE STEM DOWNzpUPwEIGHTH NOTE STEM DOWNzoUPwFLAT SIGNpSORIpKORO",
     "N"]⟩,
   ⟨119296, ["aGREEK VOCAL NOTATION SYMBOL-1zd2zd3zd4zd5zd6zd7zd8zd9zd10ze1ze2ze3ze4ze5ze6ze7ze8ze",
     "9zd20ze1ze2ze3ze4zd50ze1ze2ze3ze4gINSTRUMENTAL NOTATION SYMBOL-1zk2zk4zk5zk7zk8zk11zl2zl3zl4",
     "zl7zl8zl9zk23zl4zl5zl6zl7zl9zk30zl2zl6zl7zl8zl9zk40zl2zl3zl5zl7zl8zl9zk50zl1zl2zl3zl4aCOMBIN",
     "ING GREEK MUSICAL TRISEMEzaETRASEMEyPENTASEMEaGREEK MUSICAL LEIMMA"]⟩,
   ⟨119520, ["aMAYAN NUMERAL ZEROoONEoTWOpHREEoFOURpIVEoSIXpEVENoEIGHToNINEoTENoELEVENoTWELVEpHIRT",
     "EENoFOURTEENpIFTEENoSIXTEENpEVENTEENoEIGHTEENoNINETEEN"]⟩,
   ⟨119552, ["aMONOGRAM FOR EARTHaDIGRAM FOR HEAVENLY EARTHmUMAN EARTHlEARTHLY HEAVENuUMANqaTETRAG",
     "RAM FOR CENTREoFULL CIRCLEoMIREDoBARRIERoKEEPING SMALLoCONTRARIETYoASCENToOPPOSITIONoBRANCHI",
     "NG OUToDEFECTIVENESS OR DISTORTIONpIVERGENCEoYOUTHFULNESSoINCREASEoPENETRATIONoREACHoCONTACT",
     "oHOLDING BACKoWAITINGoFOLLOWINGoADVANCEoRELEASEqSISTANCEoEASEoJOYoCONTENTIONoENDEAVOURoDUTIE",
     "SoCHANGEoDECISIVENESSoBOLD RESOLUTIONoPACKINGoLEGIONoCLOSENESSoKINSHIPoGATHERINGoSTRENGTHoPU",
     "RITYoFULLNESSoRESIDENCEoLAW OR MODELoRESPONSEoGOING TO MEEToENCOUNTERSoSTOVEoGREATNESSoENLAR",
     "GEMENToPATTERNoRITUALoFLIGHToVASTNESS OR WASTINGoCONSTANCYoMEASUREoETERNITYoUNITYoDIMINISHME",
     "NToCLOSED MOUTHoGUARDEDNESSpATHERING INoMASSINGoACCUMULATIONoEMBELLISHMENToDOUBToWATCHoSINKI",
     "NGoINNERoDEPARTUREpARKENINGpIMMINGoEXHAUSTIONoSEVERANCEpTOPPAGEoHARDNESSoCOMPLETIONpLOSUREoF",
     "AILUREoAGGRAVATIONoCOMPLIANCEoON THE VERGEoDIFFICULTIESoLABOURINGoFOSTERING"]⟩,
   ⟨119648, ["aCOUNTING ROD UNIT DIGIT ONEyTWOzaHREEyFOURzaIVEySIXzaEVENyEIGHTyNINEnTENS DIGIT ONE",
     "yTWOzaHREEyFOURzaIVEySIXzaEVENyEIGHTyNINEaIDEOGRAPHIC TALLY MARK ONExTWOyHREExFOURyIVEaTALLY",
     " MARK ONElFIVE"]⟩,
   ⟨119808, ["aMATHEMATICAL BOLD CAPITAL AzbBzbCzbDzbEzbFzbGzbHzbIzbJzbKzbLzbMzbNzbOzbPzbQzbRzbSzb",
     "TzbUzbVzbWzbXzbYzbZsSMALL AyByCyDyEyFyGyHyIyJyKyLyMyNyOyPyQyRySyTyUyVyWyXyYyZnITALIC CAPITAL",
     " AzdBzdCzdDzdEzdFzdGzdHzdIzdJzdKzdLzdMzdNzdOzdPzdQzdRzdSzdTzdUzdVzdWzdXzdYzdZuSMALL AzbBzbCz",
     "bDzbEzbFzbG"]⟩,
   ⟨119894, ["aMATHEMATICAL ITALIC SMALL IzbJzbKzbLzbMzbNzbOzbPzbQzbRzbSzbTzbUzbVzbWzbXzbYzbZnBOLD",
     " ITALIC CAPITAL AziBziCziDziEziFziGziHziIziJziKziLziMziNziOziPziQziRziSziTziUziVziWziXziYziZ",
     "zaSMALL AzgBzgCzgDzgEzgFzgGzgHzgIzgJzgKzgLzgMzgNzgOzgPzgQzgRzgSzgTzgUzgVzgWzgXzgYzgZnSCRIPT ",
     "CAPITAL A"]⟩,
   ⟨119966, ["aMATHEMATICAL SCRIPT CAPITAL CzdD"]⟩,
   ⟨119970, ["aMATHEMATICAL SCRIPT CAPITAL G"]⟩,
   ⟨119973, ["aMATHEMATICAL SCRIPT CAPITAL JzdK"]⟩,
   ⟨119977, ["aMATHEMATICAL SCRIPT CAPITAL NzdOzdPzdQ"]⟩,
   ⟨119982, ["aMATHEMATICAL SCRIPT CAPITAL SzdTzdUzdVzdWzdXzdYzdZuSMALL AzbBzbCzbD"]⟩,
   ⟨119995, ["aMATHEMATICAL SCRIPT SMALL F"]⟩,
   ⟨119997, ["aMATHEMATICAL SCRIPT SMALL HzbIzbJzbKzbLzbMzbN"]⟩,
   ⟨120005, ["aMATHEMATICAL SCRIPT SMALL PzbQzbRzbSzbTzbUzbVzbWzbXzbYzbZnBOLD SCRIPT CAPITAL AziBz",
     "iCziDziEziFziGziHziIziJziKziLziMziNziOziPziQziRziSziTziUziVziWziXziYziZzaSMALL AzgBzgCzgDzgE",
     "zgFzgGzgHzgIzgJzgKzgLzgMzgNzgOzgPzgQzgRzgSzgTzgUzgVzgWzgXzgYzgZnFRAKTUR CAPITAL AzeB"]⟩,
   ⟨120071, ["aMATHEMATICAL FRAKTUR CAPITAL DzeEzeFzeG"]⟩,
   ⟨120077, ["aMATHEMATICAL FRAKTUR CAPITAL JzeKzeLzeMzeNzeOzePzeQ"]⟩,
   ⟨120086, ["aMATHEMATICAL FRAKTUR CAPITAL SzeTzeUzeVzeWzeXzeY"]⟩,
   ⟨120094, ["aMATHEMATICAL FRAKTUR SMALL AzcBzcCzcDzcEzcFzcGzcHzcIzcJzcKzcLzcMzcNzcOzcPzcQzcRzcSz",
     "cTzcUzcVzcWzcXzcYzcZnDOUBLE-STRUCK CAPITAL AzkB"]⟩,
   ⟨120123, ["aMATHEMATICAL DOUBLE-STRUCK CAPITAL DzkEzkFzkG"]⟩,
   ⟨120128, ["aMATHEMATICAL DOUBLE-STRUCK CAPITAL IzkJzkKzkLzkM"]⟩,
   ⟨120134, ["aMATHEMATICAL DOUBLE-STRUCK CAPITAL O"]⟩,
   ⟨120138, ["aMATHEMATICAL DOUBLE-STRUCK CAPITAL SzkTzkUzkVzkWzkXzkY"]⟩,
   ⟨120146, ["aMATHEMATICAL DOUBLE-STRUCK SMALL AziBziCziDziEziFziGziHziIziJziKziLziMziNziOziPziQz",
     "iRziSziTziUziVziWziXziYziZnBOLD FRAKTUR CAPITAL AzjBzjCzjDzjEzjFzjGzjHzjIzjJzjKzjLzjMzjNzjOz",
     "jPzjQzjRzjSzjTzjUzjVzjWzjXzjYzjZzbSMALL AzhBzhCzhDzhEzhFzhGzhHzhIzhJzhKzhLzhMzhNzhOzhPzhQzhR",
     "zhSzhTzhUzhVzhWzhXzhYzhZnSANS-SERIF CAPITAL AzhBzhCzhDzhEzhFzhGzhHzhIzhJzhKzhLzhMzhNzhOzhPzh",
     "QzhRzhSzhTzhUzhVzhWzhXzhYzhZySMALL AzfBzfCzfDzfEzfFzfGzfHzfIzfJzfKzfLzfMzfNzfOzfPzfQzfRzfSzf",
     "TzfUzfVzfWzfXzfYzfZyBOLD CAPITAL AzmBzmCzmDzmEzmFzmGzmHzmIzmJzmKzmLzmMzmNzmOzmPzmQzmRzmSzmTz",
     "mUzmVzmWzmXzmYzmZzeSMALL AzkBzkCzkDzkEzkFzkGzkHzkIzkJzkKzkLzkMzkNzkOzkPzkQzkRzkSzkTzkUzkVzkW",
     "zkXzkYzkZyITALIC CAPITAL AzoBzoCzoDzoEzoFzoGzoHzoIzoJzoKzoLzoMzoNzoOzoPzoQzoRzoSzoTzoUzoVzoW",
     "zoXzoYzoZzgSMALL AzmBzmCzmDzmEzmFzmGzmHzmIzmJzmKzmLzmMzmNzmOzmPzmQzmRzmSzmTzmUzmVzmWzmXzmYzm",
     "ZyBOLD ITALIC CAPITAL AztBztCztDztEztFztGztHztIztJztKztLztMztNztOztPztQztRztSztTztUztVztWztX",
     "ztYztZzlSMALL AzrBzrCzrDzrEzrFzrGzrHzrIzrJzrKzrLzrMzrNzrOzrPzrQzrRzrSzrTzrUzrVzrWzrXzrYzrZnM",
     "ONOSPACE CAPITAL AzgBzgCzgDzgEzgFzgGzgHzgIzgJzgKzgLzgMzgNzgOzgPzgQzgRzgSzgTzgUzgVzgWzgXzgYzg",
     "ZxSMALL AzeBzeCzeDzeEzeFzeGzeHzeIzeJzeKzeLzeMzeNzeOzePzeQzeRzeSzeTzeUzeVzeWzeXzeYzeZnITALIC ",
     "SMALL DOTLESS IzjJ"]⟩,
   ⟨120488, ["aMATHEMATICAL BOLD CAPITAL ALPHAzbBETAzbGAMMAzbDELTAzbEPSILONzbZETAzbETAzbTHETAzbIOT",
     "AzbKAPPAzbLAMDAzbMUzbNUzbXIzbOMICRONzbPIzbRHOzbTHETA SYMBOLzbSIGMAzbTAUzbUPSILONzbPHIzbCHIzb",
     "PSIzbOMEGAsNABLAsSMALL ALPHAyBETAyGAMMAyDELTAyEPSILONyZETAyETAyTHETAyIOTAyKAPPAyLAMDAyMUyNUy",
     "XIyOMICRONyPIyRHOyFINAL SIGMAySIGMAyTAUyUPSILONyPHIyCHIyPSIyOMEGAsPARTIAL DIFFERENTIALsEPSIL",
     "ON SYMBOLsTHETA SYMBOLsKAPPA SYMBOLsPHI SYMBOLsRHO SYMBOLsPI SYMBOLnITALIC CAPITAL ALPHAzdBE",
     "TAzdGAMMAzdDELTAzdEPSILONzdZETAzdETAzdTHETAzdIOTAzdKAPPAzdLAMDAzdMUzdNUzdXIzdOMICRONzdPIzdRH",
     "OzdTHETA SYMBOLzdSIGMAzdTAUzdUPSILONzdPHIzdCHIzdPSIzdOMEGAuNABLAuSMALL ALPHAzbBETAzbGAMMAzbD",
     "ELTAzbEPSILONzbZETAzbETAzbTHETAzbIOTAzbKAPPAzbLAMDAzbMUzbNUzbXIzbOMICRONzbPIzbRHOzbFINAL SIG",
     "MAzbSIGMAzbTAUzbUPSILONzbPHIzbCHIzbPSIzbOMEGAuPARTIAL DIFFERENTIALuEPSILON SYMBOLuTHETA SYMB",
     "OLuKAPPA SYMBOLuPHI SYMBOLuRHO SYMBOLuPI SYMBOLnBOLD ITALIC CAPITAL ALPHAziBETAziGAMMAziDELT",
     "AziEPSILONziZETAziETAziTHETAziIOTAziKAPPAziLAMDAziMUziNUziXIziOMICRONziPIziRHOziTHETA SYMBOL",
     "ziSIGMAziTAUziUPSILONziPHIziCHIziPSIziOMEGAzaNABLAzaSMALL ALPHAzgBETAzgGAMMAzgDELTAzgEPSILON",
     "zgZETAzgETAzgTHETAzgIOTAzgKAPPAzgLAMDAzgMUzgNUzgXIzgOMICRONzgPIzgRHOzgFINAL SIGMAzgSIGMAzgTA",
     "UzgUPSILONzgPHIzgCHIzgPSIzgOMEGAzaPARTIAL DIFFERENTIALzaEPSILON SYMBOLzaTHETA SYMBOLzaKAPPA ",
     "SYMBOLzaPHI SYMBOLzaRHO SYMBOLzaPI SYMBOLnSANS-SERIF BOLD CAPITAL ALPHAzmBETAzmGAMMAzmDELTAz",
     "mEPSILONzmZETAzmETAzmTHETAzmIOTAzmKAPPAzmLAMDAzmMUzmNUzmXIzmOMICRONzmPIzmRHOzmTHETA SYMBOLzm",
     "SIGMAzmTAUzmUPSILONzmPHIzmCHIzmPSIzmOMEGAzeNABLAzeSMALL ALPHAzkBETAzkGAMMAzkDELTAzkEPSILONzk",
     "ZETAzkETAzkTHETAzkIOTAzkKAPPAzkLAMDAzkMUzkNUzkXIzkOMICRONzkPIzkRHOzkFINAL SIGMAzkSIGMAzkTAUz",
     "kUPSILONzkPHIzkCHIzkPSIzkOMEGAzePARTIAL DIFFERENTIALzeEPSILON SYMBOLzeTHETA SYMBOLzeKAPPA SY",
     "MBOLzePHI SYMBOLzeRHO SYMBOLzePI SYMBOLzeITALIC CAPITAL ALPHAztBETAztGAMMAztDELTAztEPSILONzt",
     "ZETAztETAztTHETAztIOTAztKAPPAztLAMDAztMUztNUztXIztOMICRONztPIztRHOztTHETA SYMBOLztSIGMAztTAU",
     "ztUPSILONztPHIztCHIztPSIztOMEGAzlNABLAzlSMALL ALPHAzrBETAzrGAMMAzrDELTAzrEPSILONzrZETAzrETAz",
     "rTHETAzrIOTAzrKAPPAzrLAMDAzrMUzrNUzrXIzrOMICRONzrPIzrRHOzrFINAL SIGMAzrSIGMAzrTAUzrUPSILONzr",
     "PHIzrCHIzrPSIzrOMEGAzlPARTIAL DIFFERENTIALzlEPSILON SYMBOLzlTHETA SYMBOLzlKAPPA SYMBOLzlPHI ",
     "SYMBOLzlRHO SYMBOLzlPI SYMBOLnBOLD CAPITAL DIGAMMAsSMALL DIGAMMA"]⟩,
   ⟨120782, ["aMATHEMATICAL BOLD DIGIT ZEROyONEyTWOzaHREEyFOURzaIVEySIXzaEVENyEIGHTyNINEnDOUBLE-ST",
     "RUCK DIGIT ZEROziONEziTWOzjHREEziFOURzjIVEziSIXzjEVENziEIGHTziNINEnSANS-SERIF DIGIT ZEROzfON",
     "EzfTWOzgHREEzfFOURzgIVEzfSIXzgEVENzfEIGHTzfNINEyBOLD DIGIT ZEROzkONEzkTWOzlHREEzkFOURzlIVEzk",
     "SIXzlEVENzkEIGHTzkNINEnMONOSPACE DIGIT ZEROzeONEzeTWOzfHREEzeFOURzfIVEzeSIXzfEVENzeEIGHTzeNI",
     "NEaSIGNWRITING HAND-FIST INDEXrCIRCLE INDEXsUP INDEXrOVAL INDEXrHINGE INDEXrANGLE INDEXrFIST",
     " INDEX BENTrCIRCLE INDEX BENTrFIST THUMB UNDER INDEX BENTwINDEX RAISED KNUCKLEzdCUPPEDzdHING",
     "EDzj LOWrCIRCLE INDEX HINGErFIST INDEX MIDDLErCIRCLE INDEX MIDDLErFIST INDEX MIDDLE BENTzkRA",
     "ISED KNUCKLESzkHINGEDzdUP MIDDLE HINGEDzdHINGED MIDDLE UPzdMIDDLE CONJOINEDzt INDEX BENTzuMI",
     "DDLE BENTzuCUPPEDzuHINGEDzlROSSEDrCIRCLE INDEX MIDDLE CROSSEDrFIST MIDDLE BENT OVER INDEXwIN",
     "DEX BENT OVER MIDDLEzdMIDDLE THUMBrCIRCLE INDEX MIDDLE THUMBrFIST INDEX MIDDLE STRAIGHT THUM",
     "B BENTzkBENT THUMB STRAIGHTzkTHUMB BENTzkHINGED SPREAD THUMB SIDEzdUP MIDDLE HINGED THUMB SI",
     "DEzzbCONJOINEDzdHINGED MIDDLE UP THUMB SIDEzdMIDDLE UP SPREAD THUMB FORWARDzkTHUMB CUPPEDzrI",
     "RCLEDzqHOOKEDzrINGEDwTHUMB BETWEEN INDEX MIDDLE STRAIGHTwINDEX MIDDLE CONJOINED THUMB SIDEzz",
     "f CONJOINEDzzgBENTwMIDDLE THUMB HOOKED INDEX UPwINDEX THUMB HOOKED MIDDLE UPzdMIDDLE CONJOIN",
     "ED HINGED THUMB SIDEzlROSSED THUMB SIDEzlONJOINED THUMB FORWARDzuCUPPED THUMB FORWARDwMIDDLE",
     " THUMB CUPPED INDEX UPwINDEX THUMB CUPPED MIDDLE UPwMIDDLE THUMB CIRCLED INDEX UPzyHINGEDwIN",
     "DEX THUMB ANGLED OUT MIDDLE UPzqIN MIDDLE UPzjCIRCLED MIDDLE UPzdMIDDLE THUMB CONJOINED HING",
     "EDzqANGLED OUTzwwMIDDLE THUMB ANGLED OUT INDEX UPzzcCROSSEDzrINDEX UPwINDEX THUMB HOOKED MID",
     "DLE HINGEDsLAT FOUR FINGERSzj BENTzkHINGEDzkCONJOINEDzt SPLITrCLAW FOUR FINGERS CONJOINEDrFI",
     "ST FOUR FINGERS CONJOINED BENTrHINGE FOUR FINGERS CONJOINEDrFLAT FIVE FINGERS SPREADwHEEL FI",
     "VE FINGERS SPREADwFIVE FINGERS SPREAD FOUR BENTwHEEL FIVE FINGERS SPREAD FOUR BENTwFIVE FING",
     "ERS SPREAD BENTwHEEL FIVE FINGERS SPREAD BENTwFIVE FINGERS SPREAD THUMB FORWARDrCUP FIVE FIN",
     "GERS SPREADzp OPENrHINGE FIVE FINGERS SPREAD OPENrOVAL FIVE FINGERS SPREADrFLAT FIVE FINGERS",
     " SPREAD HINGEDzx THUMB SIDEzyNO THUMBvv BETWEEN PALM FACINGSwHEELwTHUMB SIDEwHEEL THUMB SIDE",
     "wTHUMB BENTzdFORWARDwSPLIT INDEX THUMB SIDEzdCENTREzj THUMB SIDEzu BENTzdLITTLErCLAWv THUMB ",
     "SIDEwNO THUMBwTHUMB FORWARDrHOOK CURLICUEvrCUP OPENuu OPEN THUMB SIDEvTHUMB SIDEvOPEN NO THU",
     "MBvNO THUMBvOPEN THUMB FORWARDvTHUMB FORWARDtRLICUE OPENzasIRCLErOVALv THUMB SIDEwNO THUMBwT",
     "HUMB FORWARDrHINGE OPENzc THUMB FORWARDww SMALLxOPEN THUMB SIDExTHUMB SIDExOPEN NO THUMBxNO ",
     "THUMBxTHUMB SIDE TOUCHING INDEXzeBETWEEN MIDDLE RINGrANGLErFIST INDEX MIDDLE RINGrCIRCLE IND",
     "EX MIDDLE RINGrHINGE INDEX MIDDLE RINGrANGLE INDEX MIDDLE RINGrHINGE LITTLErFIST INDEX MIDDL",
     "E RING BENTzpCONJOINEDrHINGE INDEX MIDDLE RING CONJOINEDrFIST LITTLE DOWNzi RIPPLE STRAIGHTz",
     "qCURVEDzjOTHERS CIRCLEDzeUPwTHUMB UNDER LITTLE UPrCIRCLE LITTLE UPrOVAL LITTLE UPrANGLE LITT",
     "LE UPrFIST LITTLE RAISED KNUCKLEzeBENTzeTOUCHES THUMBzfHUMBrHINGE LITTLE THUMBrFIST LITTLE I",
     "NDEX THUMBrHINGE LITTLE INDEX THUMBrANGLE LITTLE INDEX THUMB INDEX THUMB OUTzzdrFIST LITTLE ",
     "INDEXrCIRCLE LITTLE INDEXrHINGE LITTLE INDEXrANGLE LITTLE INDEXrFIST INDEX MIDDLE LITTLErCIR",
     "CLE INDEX MIDDLE LITTLErHINGE INDEX MIDDLE LITTLExRINGrANGLE INDEX MIDDLE LITTLErFIST INDEX ",
     "MIDDLE CROSS LITTLErCIRCLE INDEX MIDDLE CROSS LITTLErFIST RING DOWNrHINGE RING DOWN INDEX TH",
     "UMB HOOK MIDDLErANGLE RING DOWN MIDDLE THUMB INDEX CROSSrFIST RING UPzcRAISED KNUCKLEzcLITTL",
     "ErCIRCLE RING LITTLErOVAL RING LITTLErANGLE RING LITTLErFIST RING MIDDLEzi CONJOINEDzjRAISED",
     " KNUCKLESzcINDEXzcTHUMBrHOOK RING THUMBrFIST INDEX RING LITTLErCIRCLE INDEX RING LITTLEsURLI",
     "CUE INDEX RING LITTLE ONrHOOK INDEX RING LITTLE OUTzpINzpUNDERrCUP INDEX RING LITTLErHINGE I",
     "NDEX RING LITTLErANGLE INDEX RING LITTLE OUTzprFIST MIDDLE DOWNrHINGE MIDDLErFIST MIDDLE UPr",
     "CIRCLE MIDDLE UPrFIST MIDDLE RAISED KNUCKLEzeUP THUMB SIDErHOOK MIDDLE THUMBrFIST MIDDLE THU",
     "MB LITTLEzeLITTLEzeRING LITTLErCIRCLE MIDDLE RING LITTLEsURLICUE MIDDLE RING LITTLE ONtP MID",
     "DLE RING LITTLErHINGE MIDDLE RING LITTLErANGLE MIDDLE RING LITTLE OUTzrINzqrCIRCLE MIDDLE RI",
     "NG LITTLE BENTsLAW MIDDLE RING LITTLE CONJOINEDzza SIDErHOOK MIDDLE RING LITTLE CONJOINED OU",
     "TzzbINzzasINGE INDEX HINGEDrFIST INDEX THUMB SIDErHINGE INDEX THUMB SIDErFIST INDEX THUMB SI",
     "DE THUMB DIAGONALzuCONJOINEDzuBENTzoINDEX BENTzoBOTH BENTzoINDEX HINGEzjFORWARD INDEX STRAIG",
     "HTzxBENTzjHOOKzjCURLICUEzmVE THUMB INSIDErCLAW INDEX THUMB CURVE THUMB INSIDErFIST INDEX THU",
     "MB CURVE THUMB UNDERzkIRCLErCUP INDEX THUMBzh OPENrHINGE INDEX THUMB OPENzkLARGEzjzj SMALLrA",
     "NGLE INDEX THUMB OUTzkINzjrFIST THUMBzc HEELzdSIDE DIAGONALziCONJOINEDziBENTzdFORWARDzdBETWE",
     "EN INDEX MIDDLEzlMIDDLE RINGzlRING LITTLEzdUNDER TWO FINGERSzdOVER TWO FINGERSzdUNDER THREE ",
     "FINGERSzjFOUR FINGERSzdOVER FOUR RAISED KNUCKLESvv HEELmTOUCH SINGLEsMULTIPLEsBETWEENmGRASP ",
     "SINGLEsMULTIPLEsBETWEENmSTRIKE SINGLEtMULTIPLEtBETWEENmBRUSH SINGLEsMULTIPLEsBETWEENmRUB SIN",
     "GLEqMULTIPLEqBETWEENmSURFACE SYMBOLSuBETWEENnQUEEZE LARGE SINGLEuSMALL SINGLEuLARGE MULTIPLE",
     "uSMALL MULTIPLEvEQUENTIALmFLICK LARGE SINGLEsSMALL SINGLEsLARGE MULTIPLEsSMALL MULTIPLEtEQUE",
     "NTIALmSQUEEZE FLICK ALTERNATINGmMOVEMENT-HINGE UP DOWN LARGEzkSMALLzfSEQUENTIALzcDOWN SEQUEN",
     "TIALzcUP DOWN ALTERNATING LARGEzwSMALLzcSIDE TO SIDE SCISSORSvWALLPLANE FINGER CONTACTvFLOOR",
     "PLANE FINGER CONTACTvWALLPLANE SINGLE STRAIGHT SMALLzwMEDIUMzwLARGEzzcSTznWRIST FLEXzgDOUBLE",
     " STRAIGHTznWRIST FLEXznALTERNATINGzy WRIST FLEXzgCROSSzgTRIPLE STRAIGHT MOVEMENTznWRIST FLEX",
     "znALTERNATINGzy WRIST FLEXzgBEND SMALLzlMEDIUMzlLARGEzgCORNER SMALLznMEDIUMznLARGEznROTATION",
     "zhHECK SMALLzmMEDIUMzmLARGEzgBOX SMALLzkMEDIUMzkLARGEzgZIGZAG SMALLznMEDIUMznLARGEzgPEAKS SM",
     "ALLzmMEDIUMzmLARGEmTRAVEL-WALLPLANE ROTATION-WALLPLANE SINGLEzxDOUBLEzxALTERNATINGznFLOORPLA",
     "NE SINGLEzyDOUBLEzyALTERNATINGzeSHAKINGzeARM SPIRAL SINGLEzpDOUBLEzpTRIPLEmMOVEMENT-DIAGONAL",
     " AWAY SMALLzkMEDIUMzkLARGEzpSTzfTOWARDS SMALLznMEDIUMznLARGEzsSTzfBETWEEN AWAY SMALLzsMEDIUM",
     "zsLARGEzxSTznTOWARDS SMALLzvMEDIUMzvLARGEzzbSTvFLOORPLANE SINGLE STRAIGHT SMALLzxMEDIUMzxLAR",
     "GEzzdSTzoWRIST FLEXzhDOUBLE STRAIGHTzoWRIST FLEXzoALTERNATINGzza WRIST FLEXzhCROSSzhTRIPLE S",
     "TRAIGHT MOVEMENTzoWRIST FLEXzoALTERNATING MOVEMENTzzbWRIST FLEXzhBENDzhCORNER SMALLzoMEDIUMz",
     "oLARGEziHECKzhBOX SMALLzlMEDIUMzlLARGEzhZIGZAG SMALLzoMEDIUMzoLARGEzhPEAKS SMALLznMEDIUMznLA",
     "RGEmTRAVEL-FLOORPLANE ROTATION-FLOORPLANE SINGLEzzaDOUBLEzzaALTERNATINGzoWALLPLANE SINGLEzyD",
     "OUBLEzyALTERNATINGzfSHAKINGmMOVEMENT-WALLPLANE CURVE QUARTER SMALLzuMEDIUMzuLARGEzzaSTzmHALF",
     "-CIRCLE SMALLzyMEDIUMzyLARGEzzeSTzmTHREE-QUARTER CIRCLE SMALLzziMEDIUMzgHUMP SMALLzlMEDIUMzl",
     "LARGEzgLOOP SMALLzlMEDIUMzlLARGEzlSMALL DOUBLEzgWAVE CURVE DOUBLE SMALLzyMEDIUMzyLARGEzrTRIP",
     "LE SMALLzyMEDIUMzyLARGEzgCURVE THEN STRAIGHTzlD CROSS SMALLztMEDIUMmROTATION-WALLPLANE SINGL",
     "EzgDOUBLEzgALTERNATEmMOVEMENT-WALLPLANE SHAKINGzgCURVE HITTING FRONT WALLzgHUMP HITTING FRON",
     "T WALLzgLOOP HITTING FRONT WALLzgWAVE HITTING FRONT WALLmROTATION-WALLPLANE SINGLE HITTING F",
     "RONT WALLzgDOUBLE HITTING FRONT WALLzgALTERNATING HITTING FRONT WALLmMOVEMENT-WALLPLANE CURV",
     "E HITTING CHESTzgHUMP HITTING CHESTzgLOOP HITTING CHESTzgWAVE HITTING CHESTmROTATION-WALLPLA",
     "NE SINGLE HITTING CHESTzgDOUBLE HITTING CHESTzgALTERNATING HITTING CHESTmMOVEMENT-WALLPLANE ",
     "WAVE DIAGONAL PATH SMALLzzaMEDIUMzzaLARGEvFLOORPLANE CURVE HITTING CEILING SMALLzzeLARGEzhHU",
     "MP HITTING CEILING SMALL DOUBLEzzdLARGE DOUBLEzzdSMALL TRIPLEzzdLARGE TRIPLEzhLOOP HITTING C",
     "EILING SMALL SINGLEzzdLARGE SINGLEzzdSMALL DOUBLEzzdLARGE DOUBLEzhWAVE HITTING CEILING SMALL",
     "zzdLARGEmROTATION-FLOORPLANE SINGLE HITTING CEILINGzhDOUBLE HITTING CEILINGzhALTERNATING HIT",
     "TING CEILINGmMOVEMENT-FLOORPLANE CURVE HITTING FLOOR SMALLzzcLARGEzhHUMP HITTING FLOOR SMALL",
     " DOUBLEzzbLARGE DOUBLEzzbTRIPLE SMALL TRIPLEzziLARGE TRIPLEzhLOOP HITTING FLOOR SMALL SINGLE",
     "zzbLARGE SINGLEzzbSMALL DOUBLEzzbLARGE DOUBLEzhWAVE HITTING FLOOR SMALLzzbLARGEmROTATION-FLO",
     "ORPLANE SINGLE HITTING FLOORzhDOUBLE HITTING FLOORzhALTERNATING HITTING FLOORmMOVEMENT-FLOOR",
     "PLANE CURVE SMALLznMEDIUMznLARGEzsSTznCOMBINEDzhHUMP SMALLzhLOOP SMALLzhWAVE SNAKEznMALLzmLA",
     "RGEmROTATION-FLOORPLANE SINGLEzhDOUBLEzhALTERNATINGmMOVEMENT-FLOORPLANE SHAKING PARALLELvWAL",
     "LPLANE ARM CIRCLE SMALL SINGLEzrMEDIUM SINGLEzrSMALL DOUBLEzrMEDIUM DOUBLEvFLOORPLANE ARM CI",
     "RCLE HITTING WALL SMALL SINGLEzzgMEDIUM SINGLEzzgLARGE SINGLEzzgSMALL DOUBLEzzgMEDIUM DOUBLE",
     "zzgLARGE DOUBLEvWALLPLANE WRIST CIRCLE FRONT SINGLEzzaDOUBLEvFLOORPLANE WRIST CIRCLE HITTING",
     " WALL SINGLEzziDOUBLEvWALLPLANE FINGER CIRCLES SINGLEzvDOUBLEvFLOORPLANE FINGER CIRCLES HITT",
     "ING WALL SINGLEzzkDOUBLEmDYNAMIC ARROWHEAD SMALLzfLARGEuFASTuSLOWuTENSEuRELAXEDuSIMULTANEOUS",
     "zh ALTERNATINGuEVERY OTHER TIMEuGRADUALmHEADq RIMrMOVEMENT-WALLPLANE STRAIGHTzlTILTzbFLOORPL",
     "ANE STRAIGHTzbWALLPLANE CURVEzbFLOORPLANE CURVEza CIRCLEmFACE DIRECTION POSITION NOSE FORWAR",
     "D TILTINGzqUP OR DOWNzzb TILTINGmEYEBROWS STRAIGHT UPzfNEUTRALzfDOWNmDREAMY EYEBROWS NEUTRAL",
     " DOWNzdDOWN NEUTRALzdUP NEUTRALzdNEUTRAL UPmFOREHEAD NEUTRALvCONTACTvWRINKLEDmEYES OPENrSQUE",
     "EZEDrCLOSEDp BLINK SINGLEwMULTIPLEpS HALF OPENrWIDE OPENrHALF CLOSEDrWIDENING MOVEMENTp WINK",
     "pLASHES UPwDOWNwFLUTTERINGpGAZE-WALLPLANE STRAIGHTzn DOUBLEzoALTERNATINGuFLOORPLANE STRAIGHT",
     "zo DOUBLEzpALTERNATINGuWALLPLANE CURVEDuFLOORPLANE CURVEDuWALLPLANE CIRCLINGmCHEEKS PUFFEDtN",
     "EUTRALtSUCKEDmTENSE CHEEKS HIGHzaMIDDLEzaLOWmEARSmNOSE NEUTRALrCONTACTrWRINKLESsIGGLESmAIR B",
     "LOWING OUTqSUCKING INqBLOW SMALL ROTATIONSqSUCK SMALL ROTATIONSmBREATH INHALEtEXHALEmMOUTH C",
     "LOSED NEUTRALzaFORWARDzaCONTACTsSMILEx WRINKLEDyOPENsFROWNx WRINKLEDyOPENsOPEN CIRCLExFORWAR",
     "DxWRINKLEDxOVALzc WRINKLEDzdYAWNxRECTANGLEzh WRINKLEDziYAWNsKISSw FORWARDxWRINKLEDsTENSEx FO",
     "RWARDySUCKEDmLIPS PRESSED TOGETHERp LOWER OVER UPPERqUPPER OVER LOWERmMOUTH CORNERSsWRINKLES",
     " SINGLEzcDOUBLEmTONGUE STICKING OUT FARtLICKING LIPStTIP BETWEEN LIPSxTOUCHING INSIDE MOUTHt",
     "INSIDE MOUTH RELAXEDtMOVES AGAINST CHEEKtCENTRE STICKING OUTzbINSIDE MOUTHnEETHr MOVEMENTsON",
     " TONGUEzc MOVEMENTvLIPSza MOVEMENTsBITE LIPSmMOVEMENT-WALLPLANE JAWvFLOORPLANE JAWmNECKmHAIR",
     "mEXCITEMENTmSHOULDER HIP SPINEzaPOSITIONSmWALLPLANE SHOULDER HIP MOVEmFLOORPLANE SHOULDER HI",
     "P MOVEmSHOULDER TILTING FROM WAISTmTORSO-WALLPLANE STRAIGHT STRETCHzdCURVED BENDsFLOORPLANE ",
     "TWISTINGmUPPER BODY TILTING FROM HIP JOINTSmLIMB COMBINATIONrLENGTH-1y2y3y4y5y6y7mFINGERmLOC",
     "ATION-WALLPLANE SPACEvFLOORPLANE SPACEu HEIGHTvWIDTHvDEPTHvHEAD NECKvTORSOvLIMBS DIGITSmCOMM",
     "AmFULL STOPmSEMICOLONmCOLONmPARENTHESIS"]⟩,
   ⟨121499, ["aSIGNWRITING FILL MODIFIER-2zb3zb4zb5zb6"]⟩,
   ⟨121505, ["aSIGNWRITING ROTATION MODIFIER-2zf3zf4zf5zf6zf7zf8zf9zf10zg1zg2zg3zg4zg5zg6"]⟩,
   ⟨122624, ["aLATIN SMALL LETTER FENG DIGRAPH WITH TRILLtREVERSED SCRIPT GgLETTER SMALL CAPITAL T",
     "URNED GgSMALL LETTER REVERSED KgLETTER SMALL CAPITAL L WITH BELTgSMALL LETTER LEZH WITH RETR",
     "OFLEX HOOKtTURNED Y WITH BELTtREVERSED ENGtTURNED R WITH LONG LEG AND RETROFLEX HOOKu WITH H",
     "OOK AND RETROFLEX HOOKgLETTER RETROFLEX CLICK WITH RETROFLEX HOOKgSMALL LETTER ESH WITH DOUB",
     "LE BARzn AND CURLtTURNED T WITH CURLgLETTER INVERTED GLOTTAL STOP WITH CURLnSTRETCHED C WITH",
     " CURLoMALL CAPITAL TURNED KgSMALL LETTER L WITH FISHHOOKtDEZH DIGRAPH WITH PALATAL HOOKtL WI",
     "TH BELT AND PALATAL HOOKtENG WITH PALATAL HOOKtTURNED R WITH PALATAL HOOKtR WITH FISHHOOK AN",
     "D PALATAL HOOKtTESH DIGRAPH WITH PALATAL HOOKtEZH WITH PALATAL HOOKtDEZH DIGRAPH WITH RETROF",
     "LEX HOOKtI WITH STROKE AND RETROFLEX HOOKtO WITH RETROFLEX HOOKtTESH DIGRAPH WITH RETROFLEX ",
     "HOOKtC WITH RETROFLEX HOOKtS WITH CURL"]⟩,
   ⟨122880, ["aCOMBINING GLAGOLITIC LETTER AZUzdBUKYzdVEDEzdGLAGOLIzdDOBROzdYESTUzdZHIVETE"]⟩,
   ⟨122888, ["aCOMBINING GLAGOLITIC LETTER ZEMLJAzdIZHEzeNITIAL IZHEzezdDJERVIzdKAKOzdLJUDIJEzdMYS",
     "LITEzdNASHIzdONUzdPOKOJIzdRITSIzdSLOVOzdTVRIDOzdUKUzdFRITUzdHERU"]⟩,
   ⟨122907, ["aCOMBINING GLAGOLITIC LETTER SHTAzdTSIzdCHRIVIzdSHAzdYERUzgIzeATI"]⟩,
   ⟨122915, ["aCOMBINING GLAGOLITIC LETTER YUzdSMALL YUS"]⟩,
   ⟨122918, ["aCOMBINING GLAGOLITIC LETTER YOzdIOTATED SMALL YUSzdBIG YUSzdIOTATED BIG YUSzdFITA"]⟩,
   ⟨123136, ["aNYIAKENG PUACHUE HMONG LETTER MAzfTSAzfNTAzfTAzfHAzfNAzfXAzfNKAzfCAzfLAzfSAzfZAzfNC",
     "AzgTSAzfKAzfDAzfNYAzgRAzfVAzfNTXAzfTXAzfFAzfRAzfQAzfYAzfNQAzfPAzfXYAzfNPAzfDLAzfNPLAzfHAHzfM",
     "LAzfPLAzfGAzfRRAzfAzgAzfIzfUzfOzgOzfEzgEzfW"]⟩,
   ⟨123184, ["aNYIAKENG PUACHUE HMONG TONE-BzdMzdJzdVzdSzdGzdDxSIGN FOR PERSONzhTHINGzhLOCATIONzhA",
     "NIMALzhINVERTEBRATEzdXW XWyYLLABLE LENGTHENER"]⟩,
   ⟨123200, ["aNYIAKENG PUACHUE HMONG DIGIT ZEROzeONEzeTWOzfHREEzeFOURzfIVEzeSIXzfEVENzeEIGHTzeNIN",
     "E"]⟩,
   ⟨123214, ["aNYIAKENG PUACHUE HMONG LOGOGRAM NYAJxCIRCLED CA"]⟩,
   ⟨123536, ["aTOTO LETTER PAmBAmTAmDAmKAmGAmMAmNAnGAmSAmCHAmYAmWAmJAmHAmRAmLAmImBREATHY ImIUmBREA",
     "THY IUmUmEmBREATHY EmEOmBREATHY EOmOmAEmBREATHY AEmAfSIGN RISING TONE"]⟩,
   ⟨123584, ["aWANCHO LETTER AApoBAoCAoDAoGAoYAoPHAoLAoNAoPAoTApHAoFAoSApHAoJAoZAoWAoVAoKAoOoAUoRA",
     "oMAoKHAoHAoEoIoNGAoUoLLHAoTSApRAoONGoAANGpNGoINGoONoENoAANoNYAoUENoYIHhTONE TUPpNImKOIpNIhDI",
     "GIT ZEROnONEnTWOoHREEnFOURoIVEnSIXoEVENnEIGHTnNINE"]⟩,
   ⟨123647, ["aWANCHO NGUN SIGN"]⟩,
   ⟨124896, ["aETHIOPIC SYLLABLE HHYAvUvIvAAvEEwvO"]⟩,
   ⟨124904, ["aETHIOPIC SYLLABLE GURAGE HHWAsHHWIvEEw"]⟩,
   ⟨124909, ["aETHIOPIC SYLLABLE GURAGE MWIzcEE"]⟩,
   ⟨124912, ["aETHIOPIC SYLLABLE GURAGE QWIzcEEzdzaBWIzcEEzaKWIzcEEzdzaGWIzcEEzdzaFWIzcEEzaPWIzcE",
     "E"]⟩,
   ⟨124928, ["aMENDE KIKAKUI SYLLABLE M001 KIzb2 KAzb3 KUza65 KEEza95 KEza76 KOOza48 KOy179 KUAy00",
     "4 WIzb5 WAzb6 WUy126 WEEza18 WEzb4 WOOy045 WOy194 WUIza43 WEIy061 WVIza49 WVAy139 WVEy007 MI",
     "Nzb8 MANzb9 MUNza59 MENza94 MONy154 MUANza89 MUENy010 BIzb1 BAzb2 BUy150 BEEy097 BEy103 BOOz",
     "a38 BOy013 Izb4 Azb5 Uy163 EEza00 Eza65 OOza47 Oza37 EIzb1 INzb5 INza95 ANza78 ENy019 SIza20",
     " SAzb1 SUy162 SEEza16 SEza36 SOOy079 SOy196 SIAy025 LIzb6 LAzb7 LUza84 LEEza73 LEza54 LOOy15",
     "3 LOza10 LONG LEy016 DIzb7 DAzb8 DUza89 DEEy180 DOOzb1 DOy022 TIzb3 TAzb4 TUza91 TEEza55 TEy",
     "104 TOOy069 TOza28 JIzb9 JAza30 JUy157 JEEza13 JEza60 JOOy063 JOy175 LONG JOy031 YIzb2 YAzb3",
     " YUy109 YEEy080 YEy141 YOOza21 YOy034 FIzb5 FAzb6 FUza78 FEEzb5 FEy133 FOOy088 FOy197 FUAza0",
     "1 FANy037 NINzb8 NANzb9 NUNy117 NENza69 NONza76 HIy041 HAy186 HUy040 HEEza96 HEza42 HOOy140 ",
     "HOy083 HEEIy128 HOOUy053 HINy130 HANy087 HUNza52 HENy193 HONy046 HUANza90 NGGIza43 NGGAza82 ",
     "NGGUy115 NGGEEza46 NGGEza56 NGGOOza20 NGGOza59 NGGAAza27 NGGUAy086 LONG NGGEy106 LONG NGGOOz",
     "a83 LONG NGGOza55 GIza11 GAza68 GUza90 GEEza66 GUEIzb7 GUANza84 NGENy057 NGONy177 NGUANy068 ",
     "PIza99 PAza50 PUza81 PEEza51 PEy102 POOy066 POy145 MBIy062 MBAy122 MBUy047 MBEEy188 MBEEy072",
     " MBEy172 MBOOzb4 MBOza87 MBUUza61 LONG MBEza05 LONG MBOOza42 LONG MBOza32 KPIy092 KPAza74 KP",
     "Uza44 KPEEy108 KPEza12 KPOOza58 KPOza24 GBIy056 GBAy148 GBUy093 GBEEy107 GBEy071 GBOOzb0 GBO",
     "y171 RAza23 NDIzb9 NDAzb5 NDUza91 NDEEza19 NDEy067 NDOOzb4 NDOy152 NJAza92 NJUza49 NJEEza34 ",
     "NJOOza82 VIzb5 VAza51 VUza73 VEEy085 VEy144 VOOy077 VOy164 NYINy058 NYANy170 NYUNy098 NYENza",
     "60 NYON"]⟩,
   ⟨125127, ["aMENDE KIKAKUI DIGIT ONEuTWOvHREEuFOURvIVEuSIXvEVENuEIGHTuNINEoCOMBINING NUMBER TEEN",
     "SziNSzgHUNDREDSzgTHOUSANDSzhEN THOUSANDSzgHUNDRED THOUSANDSzgMILLIONS"]⟩,
   ⟨125184, ["aADLAM CAPITAL LETTER ALIFvDAALIvLAAMvMIIMvBAvSINNYIIYHEvPEvBHEvRAvEvFAvIvOvDHAvYHEv",
     "WAWvNUNvKAFvYAvUvJIIMvCHIvHAvQAAFvGAvNYAvTUvNHAvVAvKHAvGBEvZALvKPOvSHAgSMALL LETTER ALIFtDAA",
     "LItLAAMtMIIMtBAtSINNYIIYHEtPEtBHEtRAtEtFAtItOtDHAtYHEtWAWtNUNtKAFtYAtUtJIIMtCHItHAtQAAFtGAtN",
     "YAtTUtNHAtVAtKHAtGBEtZALtKPOtSHAgALIF LENGTHENERgVOWEL LENGTHENERgGEMINATION MARKgHAMZAgCONS",
     "ONANT MODIFIERgGEMINATE CONSONANT MODIFIERgNUKTAhASALIZATION MARK"]⟩,
   ⟨125264, ["aADLAM DIGIT ZEROmONEmTWOnHREEmFOURnIVEmSIXnEVENmEIGHTmNINE"]⟩,
   ⟨125278, ["aADLAM INITIAL EXCLAMATION MARKoQUESTION MARK"]⟩,
   ⟨126065, ["aINDIC SIYAQ NUMBER ONEtTWOuHREEtFOURuIVEtSIXuEVENtEIGHTtNINEtTENuWENTYuHIRTYtFORTYu",
     "IFTYtSIXTYuEVENTYtEIGHTYtNINETYtONE HUNDREDtTWO HUNDREDuHREE HUNDREDtFOUR HUNDREDuIVE HUNDRE",
     "DtSIX HUNDREDuEVEN HUNDREDtEIGHT HUNDREDtNINE HUNDREDtONE THOUSANDtTWO THOUSANDuHREE THOUSAN",
     "DtFOUR THOUSANDuIVE THOUSANDtSIX THOUSANDuEVEN THOUSANDtEIGHT THOUSANDtNINE THOUSANDtTEN THO",
     "USANDuWENTY THOUSANDuHIRTY THOUSANDtFORTY THOUSANDuIFTY THOUSANDtSIXTY THOUSANDuEVENTY THOUS",
     "ANDtEIGHTY THOUSANDtNINETY THOUSANDtLAKHxANmLAKH MARKmNUMBER KARORyANtPREFIXED ONEzdTWOzeHRE",
     "EzdFOURzeIVEzdSIXzeEVENzdEIGHTzdNINEmPLACEHOLDERmFRACTION ONE QUARTERzaHALFvTHREE QUARTERSmR",
     "UPEE MARKmNUMBER ALTERNATE ONEzeTWOzfEN THOUSANDmALTERNATE LAKH MARK"]⟩,
   ⟨126209, ["aOTTOMAN SIYAQ NUMBER ONEvTWOwHREEvFOURwIVEvSIXwEVENvEIGHTvNINEvTENwWENTYwHIRTYvFORT",
     "YwIFTYvSIXTYwEVENTYvEIGHTYvNINETYvONE HUNDREDvTWO HUNDREDwHREE HUNDREDvFOUR HUNDREDwIVE HUND",
     "REDvSIX HUNDREDwEVEN HUNDREDvEIGHT HUNDREDvNINE HUNDREDvONE THOUSANDvTWO THOUSANDwHREE THOUS",
     "ANDvFOUR THOUSANDwIVE THOUSANDvSIX THOUSANDwEVEN THOUSANDvEIGHT THOUSANDvNINE THOUSANDvTEN T",
     "HOUSANDwWENTY THOUSANDwHIRTY THOUSANDvFORTY THOUSANDwIFTY THOUSANDvSIXTY THOUSANDwEVENTY THO",
     "USANDvEIGHTY THOUSANDvNINETY THOUSANDoMARRATANoALTERNATE NUMBER TWOzhHREEzgFOURzhIVEzgSIXzhE",
     "VENzgEIGHTzgNINEzgTENzgFOUR HUNDREDzgSIX HUNDREDzgTWO THOUSANDzhEN THOUSANDoFRACTION ONE HAL",
     "FzcSIXTH"]⟩,
   ⟨126464, ["aARABIC MATHEMATICAL ALEFuBEHuJEEMuDAL"]⟩,
   ⟨126469, ["aARABIC MATHEMATICAL WAWuZAINuHAHuTAHuYEHuKAFuLAMuMEEMuNOONuSEENuAINuFEHuSADuQAFuREH",
     "uSHEENuTEHvHEHuKHAHuTHALuDADuZAHuGHAINuDOTLESS BEHzdNOONzdFEHzdQAF"]⟩,
   ⟨126497, ["aARABIC MATHEMATICAL INITIAL BEHzdJEEM"]⟩,
   ⟨126500, ["aARABIC MATHEMATICAL INITIAL HEH"]⟩,
   ⟨126503, ["aARABIC MATHEMATICAL INITIAL HAH"]⟩,
   ⟨126505, ["aARABIC MATHEMATICAL INITIAL YEHzdKAFzdLAMzdMEEMzdNOONzdSEENzdAINzdFEHzdSADzdQAF"]⟩,
   ⟨126516, ["aARABIC MATHEMATICAL INITIAL SHEENzdTEHzeHEHzdKHAH"]⟩,
   ⟨126521, ["aARABIC MATHEMATICAL INITIAL DAD"]⟩,
   ⟨126523, ["aARABIC MATHEMATICAL INITIAL GHAIN"]⟩,
   ⟨126530, ["aARABIC MATHEMATICAL TAILED JEEM"]⟩,
   ⟨126535, ["aARABIC MATHEMATICAL TAILED HAH"]⟩,
   ⟨126537, ["aARABIC MATHEMATICAL TAILED YEH"]⟩,
   ⟨126539, ["aARABIC MATHEMATICAL TAILED LAM"]⟩,
   ⟨126541, ["aARABIC MATHEMATICAL TAILED NOONzcSEENzcAIN"]⟩,
   ⟨126545, ["aARABIC MATHEMATICAL TAILED SADzcQAF"]⟩,
   ⟨126548, ["aARABIC MATHEMATICAL TAILED SHEEN"]⟩,
   ⟨126551, ["aARABIC MATHEMATICAL TAILED KHAH"]⟩,
   ⟨126553, ["aARABIC MATHEMATICAL TAILED DAD"]⟩,
   ⟨126555, ["aARABIC MATHEMATICAL TAILED GHAIN"]⟩,
   ⟨126557, ["aARABIC MATHEMATICAL TAILED DOTLESS NOON"]⟩,
   ⟨126559, ["aARABIC MATHEMATICAL TAILED DOTLESS QAF"]⟩,
   ⟨126561, ["aARABIC MATHEMATICAL STRETCHED BEHzfJEEM"]⟩,
   ⟨126564, ["aARABIC MATHEMATICAL STRETCHED HEH"]⟩,
   ⟨126567, ["aARABIC MATHEMATICAL STRETCHED HAHzfTAHzfYEHzfKAF"]⟩,
   ⟨126572, ["aARABIC MATHEMATICAL STRETCHED MEEMzfNOONzfSEENzfAINzfFEHzfSADzfQAF"]⟩,
   ⟨126580, ["aARABIC MATHEMATICAL STRETCHED SHEENzfTEHzgHEHzfKHAH"]⟩,
   ⟨126585, ["aARABIC MATHEMATICAL STRETCHED DADzfZAHzfGHAINzfDOTLESS BEH"]⟩,
   ⟨126590, ["aARABIC MATHEMATICAL STRETCHED DOTLESS FEH"]⟩,
   ⟨126592, ["aARABIC MATHEMATICAL LOOPED ALEFzcBEHzcJEEMzcDALzcHEHzcWAWzcZAINzcHAHzcTAHzcYEH"]⟩,
   ⟨126603, ["aARABIC MATHEMATICAL LOOPED LAMzcMEEMzcNOONzcSEENzcAINzcFEHzcSADzcQAFzcREHzcSHEENzcT",
     "EHzdHEHzcKHAHzcTHALzcDADzcZAHzcGHAIN"]⟩,
   ⟨126625, ["aARABIC MATHEMATICAL DOUBLE-STRUCK BEHzjJEEMzjDAL"]⟩,
   ⟨126629, ["aARABIC MATHEMATICAL DOUBLE-STRUCK WAWzjZAINzjHAHzjTAHzjYEH"]⟩,
   ⟨126635, ["aARABIC MATHEMATICAL DOUBLE-STRUCK LAMzjMEEMzjNOONzjSEENzjAINzjFEHzjSADzjQAFzjREHzjS",
     "HEENzjTEHzkHEHzjKHAHzjTHALzjDADzjZAHzjGHAIN"]⟩,
   ⟨126704, ["aARABIC MATHEMATICAL OPERATOR MEEM WITH HAH WITH TATWEELzeHAH WITH DAL"]⟩]

end FixedExtract.Text
